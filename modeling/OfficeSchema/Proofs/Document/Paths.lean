import OfficeSchema.Proofs.Document.References
import OfficeSchema.Proofs.Text.Words

/-!
Paths as texts. A path is read back from its text: it is cut at the slashes, and what stands behind
the last bracket that opens is the number. So two nodes of a tree have different paths, whatever
brackets and digits their names hold.
-/

namespace OfficeSchema

namespace PathStep

variable {s t : PathStep}

def label (s : PathStep) : List Char := s.name.toList ++ '[' :: ((toString s.index).toList ++ [']'])

theorem toList_text (s : PathStep) : s.text.toList = '/' :: s.label := by
  simp [text, label, toString]

theorem label_inj (h : s.label = t.label) : s = t := by
  obtain ⟨name, index⟩ := s
  obtain ⟨name', index'⟩ := t
  have hclean (n : Nat) : '[' ∉ (toString n).toList.reverse := fun hmem =>
    absurd (Text.isDigit_of_mem_toString (List.mem_reverse.mp hmem)) (by decide)
  -- from the end, the number stops at the first bracket
  have hreverse := congrArg List.reverse h
  simp only [label, List.reverse_append, List.reverse_cons, List.append_assoc, List.reverse_nil,
    List.nil_append, List.cons_append, List.cons.injEq, true_and] at hreverse
  obtain ⟨hindex, hname⟩ := append_cons_inj (hclean index) (hclean index') hreverse
  rw [List.reverse_inj, String.toList_inj] at hindex hname
  rw [hname, Text.toString_inj hindex]

theorem slash_not_mem_label (h : '/' ∉ s.name.toList) : ∀ c ∈ s.label, (c == '/') = false := by
  intro c hc
  rw [beq_eq_false_iff_ne]
  rintro rfl
  simp only [label, List.mem_append, List.mem_cons, List.not_mem_nil, or_false] at hc
  rcases hc with hc | hc | hc | hc
  · exact h hc
  · exact absurd hc (by decide)
  · exact absurd (Text.isDigit_of_mem_toString hc) (by decide)
  · exact absurd hc (by decide)

end PathStep

namespace NodeRef

variable {q r : NodeRef}

theorem toList_path (r : NodeRef) :
    r.path.toList = (r.steps.map PathStep.label).flatMap (fun w => '/' :: w) := by
  simp only [path, String.toList_join, List.flatMap_map, PathStep.toList_text]

theorem pieces_path (h : ∀ s ∈ r.steps, '/' ∉ s.name.toList) :
    Text.pieces (· == '/') r.path.toList = [] :: r.steps.map PathStep.label := by
  have hclean : ∀ w ∈ r.steps.map PathStep.label, ∀ c ∈ w, (c == '/') = false :=
    List.forall_mem_map.mpr fun s hs => PathStep.slash_not_mem_label (h s hs)
  rw [toList_path, ← Text.pieces_append_flatMap (d := '/') (w := []) rfl (by simp) hclean,
    List.nil_append]

theorem steps_eq_of_path_eq (hq : ∀ s ∈ q.steps, '/' ∉ s.name.toList)
    (hr : ∀ s ∈ r.steps, '/' ∉ s.name.toList) (h : q.path = r.path) : q.steps = r.steps := by
  have hlabels := pieces_path hq
  rw [h, pieces_path hr, List.cons.injEq] at hlabels
  exact (List.map_injective_iff.mpr fun _ _ => PathStep.label_inj) hlabels.2.symm

theorem path_child (r : NodeRef) (before : List String) (name : String) :
    (r.child before name).path = r.path ++ s!"/{name}[{before.count name + 1}]" := by
  rw [path, path, child, steps]
  simp [String.join_append, PathStep.text]

/-- The reference of the node at the end of a way, each node named among the children of the one
above it. -/
def assigned? : List Nat → NodeRef → Element → Option NodeRef
  | [], r, _ => some r
  | i :: is, r, e =>
      match e.children[i]?, (r.children e.children)[i]? with
      | some c, some s => assigned? is s c
      | _, _ => none

theorem assigned?_eq (is : List Nat) (r : NodeRef) (e : Element) :
    assigned? is r e = (e.descendant? is).map (fun _ => r.along is e) := by
  induction is generalizing r e with
  | nil => rfl
  | cons i is ih =>
      rw [assigned?, getElem?_children, Element.descendant?, along]
      cases e.children[i]? with
      | none => rfl
      | some c => exact ih _ c

end NodeRef

variable {e a : Element} {is : List Nat}

theorem Element.name_of_mem_spelling (h : ∀ is a, e.descendant? is = some a → '/' ∉ a.name.toList)
    (is : List Nat) : ∀ s ∈ e.spelling is, '/' ∉ s.name.toList := by
  induction is generalizing e with
  | nil => simp [spelling]
  | cons i is ih =>
      rw [spelling]
      cases hc : e.children[i]? with
      | none => simp
      | some c =>
          have hbelow (js : List Nat) (a : Element) (ha : c.descendant? js = some a) :
              '/' ∉ a.name.toList := h (i :: js) a (by rw [descendant?, hc]; exact ha)
          rw [List.forall_mem_cons]
          exact ⟨hbelow [] c rfl, ih hbelow⟩

/-- Every node of a tree has a reference, and no two nodes have the same path if no name holds a
slash. The path of a child adds its name and its number among the siblings of that name. -/
theorem node_paths_distinct (e : Element)
    (h : ∀ is a, e.descendant? is = some a → '/' ∉ a.name.toList) :
    (∀ is, (NodeRef.assigned? is (.root e) e).isSome = (e.descendant? is).isSome) ∧
    (∀ is js x y, NodeRef.assigned? is (.root e) e = some x →
      NodeRef.assigned? js (.root e) e = some y → x.path = y.path → is = js) ∧
    ∀ is a q i c k, e.descendant? is = some a → NodeRef.assigned? is (.root e) e = some q →
      a.children[i]? = some c → (a.children.take (i + 1)).countP (fun d => d.name == c.name) = k →
        ∃ r, NodeRef.assigned? (is ++ [i]) (.root e) e = some r ∧
          r.path = q.path ++ s!"/{c.name}[{k}]" := by
  refine ⟨fun is => ?_, fun is js x y hx hy hpath => ?_, fun is a q i c k ha hq hc hk => ?_⟩
  · rw [NodeRef.assigned?_eq, Option.isSome_map]
  · rw [NodeRef.assigned?_eq] at hx hy
    obtain ⟨a, ha, rfl⟩ := Option.map_eq_some_iff.mp hx
    obtain ⟨b, hb, rfl⟩ := Option.map_eq_some_iff.mp hy
    have hclean (is : List Nat) :
        ∀ s ∈ ((NodeRef.root e).along is e).steps, '/' ∉ s.name.toList := by
      rw [NodeRef.steps_along]
      intro s hs
      rcases List.mem_append.mp hs with hs | hs
      · obtain rfl : s = ⟨e.name, 1⟩ := by simpa [NodeRef.root, NodeRef.steps] using hs
        exact h [] e rfl
      · exact Element.name_of_mem_spelling h is s hs
    have hsteps := NodeRef.steps_eq_of_path_eq (hclean is) (hclean js) hpath
    rw [NodeRef.steps_along, NodeRef.steps_along, List.append_cancel_left_eq] at hsteps
    exact Element.spelling_inj (by simp [ha]) (by simp [hb]) hsteps
  · rw [NodeRef.assigned?_eq] at hq
    obtain ⟨-, -, rfl⟩ := Option.map_eq_some_iff.mp hq
    have hchild : e.descendant? (is ++ [i]) = some c := by
      rw [Element.descendant?_append, ha, Option.bind_some, Element.descendant?, hc]
      rfl
    have halong : (NodeRef.root e).along (is ++ [i]) e =
        ((NodeRef.root e).along is e).child ((a.children.take i).map Element.name) c.name := by
      rw [NodeRef.along_append ha, NodeRef.along, hc]
      rfl
    have hcount : ((a.children.take i).map Element.name).count c.name + 1 = k := by
      rw [← hk, countP_take_succ hc (beq_self_eq_true c.name), List.count_eq_countP, List.countP_map]
      rfl
    refine ⟨_, by rw [NodeRef.assigned?_eq, hchild, Option.map_some], ?_⟩
    rw [halong, NodeRef.path_child, hcount]

theorem node_paths_distinct_brackets :
    let leaf (name : String) : Element := .ofNode (.unknown name none)
    let e : Element := { leaf "r" with
      children := [leaf "a", .ofNode (.comment "/"), leaf "a[1]", leaf "a"] }
    (∀ is a, e.descendant? is = some a → '/' ∉ a.name.toList) ∧
      (∃ r, NodeRef.assigned? [3] (.root e) e = some r ∧ r.path = "/r[1]/a[2]") ∧
      ∀ x y, NodeRef.assigned? [2] (.root e) e = some x →
        NodeRef.assigned? [3] (.root e) e = some y → x.path ≠ y.path := by
  intro leaf e
  have hleaf : ∀ c ∈ e.children, c.children.isEmpty = true ∧ '/' ∉ c.name.toList := by decide
  have hclean : ∀ is a, e.descendant? is = some a → '/' ∉ a.name.toList := by
    intro is a ha
    cases is with
    | nil =>
        obtain rfl := Option.some.inj ha
        decide
    | cons i is =>
        obtain ⟨c, hc, ha⟩ := Option.bind_eq_some_iff.mp ha
        obtain ⟨hnone, hname⟩ := hleaf c (List.mem_of_getElem? hc)
        cases is with
        | nil => exact Option.some.inj ha ▸ hname
        | cons j js => simp [Element.descendant?, List.isEmpty_iff.mp hnone] at ha
  obtain ⟨-, hdistinct, hnumbered⟩ := node_paths_distinct e hclean
  refine ⟨hclean, ?_, fun x y hx hy hpath => ?_⟩
  · obtain ⟨r, hr, hpath⟩ := hnumbered [] e (.root e) 3 (leaf "a") 2 rfl rfl rfl (by decide)
    exact ⟨r, hr, hpath.trans (by decide)⟩
  · exact absurd (hdistinct _ _ x y hx hy hpath) (by decide)

end OfficeSchema

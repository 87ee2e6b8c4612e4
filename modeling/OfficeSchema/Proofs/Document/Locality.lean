import OfficeSchema.Proofs.Document.Relocation
import OfficeSchema.Proofs.Validation.Ledger

/-!
Local findings. The check of a node looks at its own attributes and text and at the nodes of its
children, but never at what is in them. So the findings on the structure of a tree are those around
a node and those of its own tree, and a change inside the node changes only its own.
-/

namespace OfficeSchema

variable {r : Registry} {node : NodeRef} {e c c' : Element} {is : List Nat}

section Children

variable {cs ds : List Element}

theorem contentFrom_congr (h : cs.map Element.node = ds.map Element.node) (m : Model)
    (g : Progress) (before : List String) :
    contentFrom m node g (cs.zip (node.childrenFrom before cs)) =
      contentFrom m node g (ds.zip (node.childrenFrom before ds)) := by
  induction cs generalizing ds g before with
  | nil =>
      obtain rfl : ds = [] := by simpa using h.symm
      rfl
  | cons c cs ih =>
      cases ds with
      | nil => simp at h
      | cons d ds =>
          obtain ⟨hnode, hrest⟩ := List.cons.inj h
          have hname : c.name = d.name := congrArg Node.name hnode
          rw [NodeRef.childrenFrom, NodeRef.childrenFrom, List.zip_cons_cons, List.zip_cons_cons,
            contentFrom, contentFrom, hnode, hname]
          cases d.node.role m with
          | slot s => exact congrArg _ (ih hrest (g.take s) _)
          | stranger name => exact congrArg _ (ih hrest g _)
          | ignored => exact ih hrest g _

theorem leafChildren_congr (h : e.children.map Element.node = c.children.map Element.node) :
    leafChildren node e = leafChildren node c := by
  have hany : e.children.any (fun d => !d.node.isMisc) =
      c.children.any (fun d => !d.node.isMisc) := by
    have hnodes := congrArg (fun ns : List Node => ns.any (fun n => !n.isMisc)) h
    exact List.any_map.symm.trans (hnodes.trans List.any_map)
  rw [leafChildren, leafChildren, hany]

theorem nodeFindings_congr (h : cs.map Element.node = ds.map Element.node) (r : Registry)
    (node : NodeRef) (n : Node) (attributes : List Attribute) (text : Option String) :
    nodeFindings r node ⟨n, attributes, text, cs⟩ =
      nodeFindings r node ⟨n, attributes, text, ds⟩ := by
  have hcontent (m : Model) : contentFindings m node cs = contentFindings m node ds := by
    rw [contentFindings_eq_contentFrom, contentFindings_eq_contentFrom]
    exact contentFrom_congr h m .start []
  have hleaf : leafChildren node ⟨n, attributes, text, cs⟩ =
      leafChildren node ⟨n, attributes, text, ds⟩ := leafChildren_congr h
  unfold nodeFindings elementFindings
  simp only [hcontent, hleaf]
  rfl

end Children

theorem forestFindings_append (cs ds : List Element) (before : List String) :
    forestFindings r node before (cs ++ ds) = forestFindings r node before cs ++
      forestFindings r node ((cs.map Element.name).reverse ++ before) ds := by
  induction cs generalizing before with
  | nil => rfl
  | cons c cs ih => simp [forestFindings, ih]

/-- Nodes that the check does not look into. -/
inductive Node.Shut (r : Registry) : Node → Prop
  | unknown (name : String) (address : Option String) : Shut r (.unknown name address)
  | misc {n : Node} (h : n.isMisc = true) : Shut r n
  | leaf (k : Kind) (i : Identity) {c : Capability} (h : c ≠ .composite) : Shut r (.typed k i c)
  | unregistered {k : Kind} (i : Identity) (c : Capability) (h : r.lookup? k = none) :
      Shut r (.typed k i c)

theorem Node.shut_iff {n : Node} : n.Shut r ↔ n.isEntered r = false := by
  constructor
  · intro h
    cases h with
    | unknown => rfl
    | misc h => cases n <;> simp [isMisc] at h <;> rfl
    | @leaf k i c h => cases c <;> simp at h <;> rfl
    | @unregistered k i c h =>
        cases c with
        | composite => simpa [isEntered, Registry.contains, Registry.lookup?] using h
        | text | empty => rfl
  · intro h
    cases n with
    | typed k i c =>
        cases c with
        | composite =>
            refine .unregistered i _ ?_
            simpa [isEntered, Registry.contains, Registry.lookup?] using h
        | text | empty => exact .leaf k i (by simp)
    | unknown name address => exact .unknown name address
    | comment | instruction => exact .misc rfl
    | wrapper => simp [isEntered] at h

def Element.ShutIn (r : Registry) (e : Element) (is : List Nat) : Prop :=
  ∃ js a, js <+: is ∧ js ≠ is ∧ e.descendant? js = some a ∧ a.node.Shut r

theorem Element.shutIn_nil : ¬e.ShutIn r [] := by
  rintro ⟨js, a, hjs, hne, -⟩
  exact hne (List.prefix_nil.mp hjs)

theorem Element.shutIn_cons {i : Nat} (hc : e.children[i]? = some c) :
    e.ShutIn r (i :: is) ↔ e.node.Shut r ∨ c.ShutIn r is := by
  constructor
  · rintro ⟨js, a, hjs, hne, ha, hshut⟩
    cases js with
    | nil =>
        obtain rfl := Option.some.inj ha
        exact .inl hshut
    | cons j js =>
        obtain ⟨rfl, hrest⟩ := List.cons_prefix_cons.mp hjs
        rw [descendant?, hc, Option.bind_some] at ha
        exact .inr ⟨js, a, hrest, fun he => hne (he ▸ rfl), ha, hshut⟩
  · rintro (hshut | ⟨js, a, hjs, hne, ha, hshut⟩)
    · exact ⟨[], e, List.nil_prefix, by simp, rfl, hshut⟩
    · refine ⟨i :: js, a, List.cons_prefix_cons.mpr ⟨rfl, hjs⟩, by simpa using hne, ?_, hshut⟩
      rw [descendant?, hc, Option.bind_some, ha]

theorem Element.node_modifyAt (hc : e.descendant? is = some c) (hnode : c'.node = c.node) :
    (e.modifyAt (fun _ => c') is).node = e.node := by
  cases is with
  | nil =>
      obtain rfl := Option.some.inj hc
      exact hnode
  | cons i is => rfl

theorem treeFindings_modify {i : Nat} {d : Element} (r : Registry) (node : NodeRef)
    (hd : e.children[i]? = some d) {g : Element → Element} (hg : (g d).node = d.node) :
    treeFindings r node { e with children := e.children.modify i g } =
      nodeFindings r node e ++ if e.node.isEntered r then
        forestFindings r node [] (e.children.take i) ++
          (treeFindings r (node.child ((e.children.take i).map Element.name) d.name) (g d) ++
            forestFindings r node (d.name :: ((e.children.take i).map Element.name).reverse)
              (e.children.drop (i + 1)))
      else [] := by
  obtain ⟨n, attributes, text, children⟩ := e
  have hmodify := modify_eq_of_getElem? hd g
  have hnodes : (children.modify i g).map Element.node = children.map Element.node :=
    map_modify_of_eq hd hg
  have hname : (g d).name = d.name := congrArg Node.name hg
  rw [treeFindings, nodeFindings_congr hnodes, hmodify, forestFindings_append, forestFindings,
    hname, List.append_nil, NodeRef.child_reverse]

/-- Whatever stands at the end of a path, the same findings come before and behind its own. -/
theorem treeFindings_modifyAt (r : Registry) (node : NodeRef) (hc : e.descendant? is = some c) :
    ∃ A B : List Finding, ∀ c', c'.node = c.node → ∃ X,
      treeFindings r node (e.modifyAt (fun _ => c') is) = A ++ X ++ B ∧
      (e.ShutIn r is → X = []) ∧ (¬e.ShutIn r is → X = treeFindings r (node.along is e) c') := by
  induction is generalizing e node with
  | nil =>
      obtain rfl := Option.some.inj hc
      exact ⟨[], [], fun c' _ => ⟨treeFindings r node c', by simp [Element.modifyAt],
        fun h => absurd h Element.shutIn_nil, fun _ => rfl⟩⟩
  | cons i is ih =>
      obtain ⟨d, hd, hdc⟩ := Option.bind_eq_some_iff.mp hc
      obtain ⟨A, B, hAB⟩ := ih (node.child ((e.children.take i).map Element.name) d.name) hdc
      have hmodify (c' : Element) (hnode : c'.node = c.node) :=
        treeFindings_modify r node hd (Element.node_modifyAt hdc hnode)
      cases he : e.node.isEntered r with
      | false =>
          refine ⟨nodeFindings r node e, [], fun c' hnode => ⟨[], ?_, fun _ => rfl, fun h => ?_⟩⟩
          · rw [Element.modifyAt, hmodify c' hnode, he]
            simp
          · exact absurd ((Element.shutIn_cons hd).mpr (.inl (Node.shut_iff.mpr he))) h
      | true =>
          have hopen : ¬e.node.Shut r := by simp [Node.shut_iff, he]
          refine ⟨nodeFindings r node e ++ (forestFindings r node [] (e.children.take i) ++ A),
            B ++ forestFindings r node (d.name :: ((e.children.take i).map Element.name).reverse)
              (e.children.drop (i + 1)), fun c' hnode => ?_⟩
          obtain ⟨X, hX, hshut, hmoved⟩ := hAB c' hnode
          refine ⟨X, ?_, fun h => ?_, fun h => ?_⟩
          · rw [Element.modifyAt, hmodify c' hnode, he, if_pos rfl, hX]
            simp only [List.append_assoc]
          · exact hshut (((Element.shutIn_cons hd).mp h).resolve_left hopen)
          · rw [NodeRef.along, hd]
            exact hmoved fun h' => h ((Element.shutIn_cons hd).mpr (.inr h'))

theorem Element.modifyAt_self (hc : e.descendant? is = some c) :
    e.modifyAt (fun _ => c) is = e := by
  induction is generalizing e with
  | nil => exact (Option.some.inj hc).symm
  | cons i is ih =>
      obtain ⟨n, attributes, text, children⟩ := e
      obtain ⟨d, hd, hdc⟩ := Option.bind_eq_some_iff.mp hc
      have hsame : children.modify i (modifyAt (fun _ => c) is) = children.modify i id := by
        rw [modify_eq_of_getElem? hd, modify_eq_of_getElem? hd, ih hdc, id_eq]
      rw [modifyAt, hsame, List.modify_id]

theorem NodeRef.along_modifyAt (node : NodeRef) (hc : e.descendant? is = some c)
    (hnode : c'.node = c.node) : node.along is (e.modifyAt (fun _ => c') is) = node.along is e := by
  induction is generalizing e node with
  | nil => rfl
  | cons i is ih =>
      obtain ⟨d, hd, hdc⟩ := Option.bind_eq_some_iff.mp hc
      have hname : (d.modifyAt (fun _ => c') is).name = d.name :=
        congrArg Node.name (Element.node_modifyAt hdc hnode)
      have hlength : (e.children.take i).length = i :=
        List.length_take_of_le (Nat.le_of_lt (List.getElem?_eq_some_iff.mp hd).1)
      rw [along, along, Element.modifyAt, List.getElem?_modify_eq, hd]
      dsimp only [Option.map_eq_map, Option.map_some]
      rw [modify_eq_of_getElem? hd, List.take_left' hlength, hname, ih _ hdc]

theorem NodeRef.along_of_descendant (hc : e.descendant? is = some c) (hattr : node.attr = none)
    (helement : node.element = e.name) :
    (node.along is e).attr = none ∧ (node.along is e).element = c.name := by
  induction is generalizing e node with
  | nil =>
      obtain rfl := Option.some.inj hc
      exact ⟨hattr, helement⟩
  | cons i is ih =>
      obtain ⟨d, hd, hdc⟩ := Option.bind_eq_some_iff.mp hc
      rw [along, hd]
      exact ih hdc rfl rfl

def unlimitedFindings (r : Registry) (e : Element) : List Finding :=
  ((Context.start r 0).checkStructure e).ledger.findings

theorem unlimitedFindings_eq (r : Registry) (e : Element) :
    unlimitedFindings r e = (structureFindings r e).map (fun f => f.inPart none) := by
  rw [unlimitedFindings, Context.checkStructure_eq]
  exact Ledger.findings_addAll (.inl rfl)

theorem unlimitedFindings_under (r : Registry) (e : Element) (q : NodeRef) :
    (unlimitedFindings r e).map (Finding.under q) =
      ((structureFindings r e).map (Finding.under q)).map (fun f => f.inPart none) := by
  rw [unlimitedFindings_eq, List.map_map, List.map_map]
  rfl

/-- If two trees differ only inside one node, their findings are alike but for those of the trees
of that node, which are the ones that these trees have alone, under the reference of the node. Both
have none if the check does not look into some node around it. -/
theorem structure_findings_local (r : Registry) (hc : e.descendant? is = some c)
    (hnode : c'.node = c.node) :
    let e' := e.modifyAt (fun _ => c') is
    let q := (NodeRef.root e).along is e
    (NodeRef.root e').along is e' = q ∧
    (∃ A X X' B, unlimitedFindings r e = A ++ X ++ B ∧ unlimitedFindings r e' = A ++ X' ++ B ∧
      (e.ShutIn r is → X = [] ∧ X' = []) ∧
      (¬e.ShutIn r is → X = (unlimitedFindings r c).map (Finding.under q) ∧
        X' = (unlimitedFindings r c').map (Finding.under q))) ∧
    ∀ f, f ∈ unlimitedFindings r c ∨ f ∈ unlimitedFindings r c' → ∃ rest,
      f.node.path = (NodeRef.root c).path ++ rest ∧ (f.under q).node.path = q.path ++ rest := by
  intro e' q
  have hroot : NodeRef.root e' = NodeRef.root e := by
    rw [NodeRef.root, NodeRef.root, Element.name, Element.node_modifyAt hc hnode]
    rfl
  obtain ⟨hattr, helement⟩ : q.attr = none ∧ q.element = c.name :=
    NodeRef.along_of_descendant hc rfl rfl
  have hname : c'.name = c.name := congrArg Node.name hnode
  refine ⟨by rw [hroot]; exact NodeRef.along_modifyAt _ hc hnode, ?_, fun f hf => ?_⟩
  · obtain ⟨A, B, hAB⟩ := treeFindings_modifyAt r (.root e) hc
    obtain ⟨X, hX, hshut, hmoved⟩ := hAB c rfl
    obtain ⟨X', hX', hshut', hmoved'⟩ := hAB c' hnode
    rw [Element.modifyAt_self hc] at hX
    rw [← hroot] at hX'
    refine ⟨A.map (fun f => f.inPart none), X.map (fun f => f.inPart none),
      X'.map (fun f => f.inPart none), B.map (fun f => f.inPart none), ?_, ?_, fun h => ?_,
      fun h => ?_⟩
    · rw [unlimitedFindings_eq, structureFindings, hX, List.map_append, List.map_append]
    · rw [unlimitedFindings_eq, structureFindings, hX', List.map_append, List.map_append]
    · rw [hshut h, hshut' h]
      exact ⟨rfl, rfl⟩
    · rw [unlimitedFindings_under, unlimitedFindings_under, hmoved h, hmoved' h,
        treeFindings_eq_under hattr helement,
        treeFindings_eq_under hattr (helement.trans hname.symm)]
      exact ⟨rfl, rfl⟩
  · have hmem : ∃ d : Element, d.name = c.name ∧ f ∈ unlimitedFindings r d :=
      hf.elim (fun hf => ⟨c, rfl, hf⟩) (fun hf => ⟨c', hname, hf⟩)
    obtain ⟨d, hd, hmem⟩ := hmem
    rw [unlimitedFindings_eq] at hmem
    obtain ⟨g, hg, rfl⟩ := List.mem_map.mp hmem
    have hpath := path_of_mem_structureFindings hg q
    rwa [NodeRef.root, hd] at hpath

theorem structure_findings_local_wrapped :
    let r : Registry := ⟨.office2007, .standard, [⟨.bare ⟨"w:p"⟩ ⟨23, "p"⟩ .composite, none⟩]⟩
    let p (attributes : List Attribute) (children : List Element) : Element :=
      ⟨.typed ⟨"w:p"⟩ ⟨23, "p"⟩ .composite, attributes, none, children⟩
    let c := p [⟨none, "a", none, none, ""⟩] []
    let c' := p [] [c, c]
    let x : Element := ⟨.unknown "x" none, [], none, [c]⟩
    let e := p [] [c, ⟨.wrapper .content, [], none, [x, c]⟩, c]
    let q := (NodeRef.root e).along [1, 1] e
    (∃ A B, unlimitedFindings r e = A ++ (unlimitedFindings r c).map (Finding.under q) ++ B ∧
      unlimitedFindings r (e.modifyAt (fun _ => c') [1, 1]) =
        A ++ (unlimitedFindings r c').map (Finding.under q) ++ B) ∧
    ((unlimitedFindings r c').map (Finding.under q)).map (fun f => f.node.path) =
      ["/w:p[1]/mc:AlternateContent[1]/w:p[1]/w:p[1]",
        "/w:p[1]/mc:AlternateContent[1]/w:p[1]/w:p[2]"] ∧
    unlimitedFindings r (e.modifyAt (fun _ => c') [1, 0, 0]) = unlimitedFindings r e := by
  intro r p c c' x e q
  have hopen : ¬e.ShutIn r [1, 1] := by
    rw [Element.shutIn_cons rfl, Element.shutIn_cons rfl, Node.shut_iff, Node.shut_iff]
    rintro (h | h | h)
    · exact absurd h (by decide)
    · exact absurd h (by decide)
    · exact Element.shutIn_nil h
  have hshut : e.ShutIn r [1, 0, 0] :=
    ⟨[1, 0], x, ⟨[0], rfl⟩, by decide, rfl, .unknown "x" none⟩
  have hc : e.descendant? [1, 1] = some c := rfl
  have hbelow : e.descendant? [1, 0, 0] = some c := rfl
  have hnode : c'.node = c.node := rfl
  obtain ⟨-, ⟨A, X, X', B, he, he', -, hmoved⟩, -⟩ := structure_findings_local r hc hnode
  obtain ⟨-, ⟨A₀, X₀, X₀', B₀, he₀, he₀', hnone, -⟩, -⟩ :=
    structure_findings_local r hbelow hnode
  obtain ⟨rfl, rfl⟩ := hmoved hopen
  obtain ⟨rfl, rfl⟩ := hnone hshut
  exact ⟨⟨A, B, he, he'⟩, by decide +kernel, he₀'.trans he₀.symm⟩

end OfficeSchema

import OfficeSchema.Proofs.Content.Progress
import OfficeSchema.Proofs.Document.References

namespace OfficeSchema

/-- What a reference from a root becomes when the root stands at another reference. -/
def NodeRef.under (q r : NodeRef) : NodeRef :=
  match r.above with
  | [] => { q with attr := r.attr }
  | _ :: below => ⟨q.steps ++ below, r.step, r.attr⟩

def Finding.under (q : NodeRef) (f : Finding) : Finding := { f with node := q.under f.node }

namespace NodeRef

variable {q r : NodeRef}

theorem under_child (q r : NodeRef) (before : List String) (name : String) :
    q.under (r.child before name) = (q.under r).child before name := by
  obtain ⟨above, step, attr⟩ := r
  cases above with
  | nil => simp [under, child, steps]
  | cons s above => simp [under, child, steps]

theorem element_under_child (q r : NodeRef) (before : List String) (name : String) :
    (q.under (r.child before name)).element = (r.child before name).element := by
  rw [under_child]
  rfl

theorem under_withAttribute (q r : NodeRef) (name : String) :
    q.under (r.withAttribute name) = (q.under r).withAttribute name := by
  obtain ⟨above, step, attr⟩ := r
  cases above <;> rfl

theorem under_root (h : q.attr = none) (e : Element) : q.under (.root e) = q := by
  rw [under, root, ← h]

theorem under_childrenFrom (q r : NodeRef) (before : List String) (cs : List Element) :
    (q.under r).childrenFrom before cs = (r.childrenFrom before cs).map q.under := by
  induction cs generalizing before with
  | nil => rfl
  | cons c cs ih => rw [childrenFrom, childrenFrom, List.map_cons, ih, under_child]

theorem path_under {s : PathStep} (h : [s] <+: r.steps) :
    ∃ rest, r.path = s.text ++ rest ∧ (q.under r).path = q.path ++ rest := by
  obtain ⟨above, step, attr⟩ := r
  cases above with
  | nil =>
      obtain ⟨_, hs⟩ := h
      obtain ⟨rfl, -⟩ := List.cons.inj hs
      exact ⟨"", by simp [path, steps], by simp [path, under, steps]⟩
  | cons t above =>
      obtain ⟨_, hs⟩ := h
      obtain ⟨rfl, -⟩ := List.cons.inj hs
      refine ⟨String.join ((above ++ [step]).map PathStep.text), ?_, ?_⟩
      · simp [path, steps]
      · simp [path, under, steps, String.append_assoc]

theorem steps_prefix_under (q r : NodeRef) : q.steps <+: (q.under r).steps := by
  obtain ⟨above, step, attr⟩ := r
  cases above with
  | nil => exact List.prefix_refl _
  | cons s above => exact ⟨above ++ [step], by simp [under, steps]⟩

end NodeRef

section Element

variable {q node : NodeRef}

theorem map_ofDefect_under (q node : NodeRef) (ds : List Defect) :
    ds.map (Finding.ofDefect (q.under node)) =
      (ds.map (Finding.ofDefect node)).map (Finding.under q) := by
  rw [List.map_map]
  rfl

theorem findings_under (name : String) (type : SimpleType) (raw : String) (isAttribute : Bool)
    (q node : NodeRef) : (ValueFrame.ofRaw name type raw isAttribute (q.under node)).findings =
      (ValueFrame.ofRaw name type raw isAttribute node).findings.map (Finding.under q) :=
  map_ofDefect_under q node _

theorem attributeFindings_under (v : Version) (d : Declaration) (q node : NodeRef) (a : Attribute) :
    attributeFindings v d (q.under node) a =
      (attributeFindings v d node a).map (Finding.under q) := by
  unfold attributeFindings
  rw [← NodeRef.under_withAttribute]
  split
  · rfl
  · dsimp only
    split
    · exact findings_under ..
    · rfl

theorem attributesFindings_under (v : Version) (d : Declaration) (q node : NodeRef) (e : Element) :
    attributesFindings v d (q.under node) e =
      (attributesFindings v d node e).map (Finding.under q) := by
  rw [attributesFindings, attributesFindings, List.map_append, List.map_flatMap, map_ofDefect_under]
  congr 1
  exact List.flatMap_congr fun a _ => attributeFindings_under v d q node a

theorem contentFrom_under (m : Model) (h : (q.under node).element = node.element) (g : Progress)
    (cs : List (Element × NodeRef)) :
    contentFrom m (q.under node) g (cs.map (Prod.map id q.under)) =
      (contentFrom m node g cs).map (Finding.under q) := by
  induction cs generalizing g with
  | nil => rw [List.map_nil, contentFrom, contentFrom, h, map_ofDefect_under]
  | cons c cs ih =>
      obtain ⟨c, ref⟩ := c
      rw [List.map_cons, Prod.map_apply, id_eq, contentFrom, contentFrom, h]
      cases c.node.role m with
      | slot s =>
          dsimp only
          rw [ih, List.map_append, map_ofDefect_under]
      | stranger name =>
          dsimp only
          rw [ih, List.map_cons]
          rfl
      | ignored => exact ih g

theorem contentFindings_under (m : Model) (h : (q.under node).element = node.element)
    (cs : List Element) : contentFindings m (q.under node) cs =
      (contentFindings m node cs).map (Finding.under q) := by
  have hzip : cs.zip ((q.under node).children cs) =
      (cs.zip (node.children cs)).map (Prod.map id q.under) := by
    rw [NodeRef.children, NodeRef.under_childrenFrom, List.zip_map_right]
    rfl
  rw [contentFindings_eq_contentFrom, contentFindings_eq_contentFrom, hzip, contentFrom_under m h]

theorem leafChildren_under (h : (q.under node).element = node.element) (e : Element) :
    leafChildren (q.under node) e = (leafChildren node e).map (Finding.under q) := by
  rw [leafChildren, leafChildren, h]
  split <;> rfl

theorem elementFindings_under (r : Registry) (d : Declaration) (c : Capability)
    (h : (q.under node).element = node.element) (e : Element) :
    elementFindings r d c (q.under node) e =
      (elementFindings r d c node e).map (Finding.under q) := by
  unfold elementFindings
  rw [List.map_append, attributesFindings_under]
  congr 1
  cases c with
  | composite =>
      dsimp only
      rw [List.map_append, h]
      congr 1
      · split <;> rfl
      · split
        · exact contentFindings_under _ h _
        · rfl
  | text =>
      dsimp only
      rw [List.map_append, leafChildren_under h]
      exact congrArg _ (findings_under ..)
  | empty =>
      dsimp only
      rw [List.map_append, leafChildren_under h, h]
      congr 1
      split <;> rfl

theorem nodeFindings_under (r : Registry) (h : (q.under node).element = node.element)
    (e : Element) :
    nodeFindings r (q.under node) e = (nodeFindings r node e).map (Finding.under q) := by
  rw [nodeFindings, nodeFindings]
  split
  · split
    · exact elementFindings_under _ _ _ h _
    · rfl
  · rfl

end Element

variable {q node : NodeRef} {r : Registry} {e : Element} {f : Finding}

theorem forestFindings_under {cs : List Element}
    (h : ∀ c ∈ cs, ∀ node : NodeRef, (q.under node).element = node.element →
      treeFindings r (q.under node) c = (treeFindings r node c).map (Finding.under q))
    (before : List String) : forestFindings r (q.under node) before cs =
      (forestFindings r node before cs).map (Finding.under q) := by
  induction cs generalizing before with
  | nil => rfl
  | cons c cs ih =>
      obtain ⟨hc, hcs⟩ := List.forall_mem_cons.mp h
      rw [forestFindings, forestFindings, List.map_append, ih hcs, ← NodeRef.under_child,
        hc _ (NodeRef.element_under_child ..)]

theorem treeFindings_under (h : (q.under node).element = node.element) :
    treeFindings r (q.under node) e = (treeFindings r node e).map (Finding.under q) := by
  induction e using Element.induct generalizing node with
  | node n attributes text children ih =>
      rw [treeFindings, treeFindings, List.map_append, nodeFindings_under r h]
      congr 1
      split
      · exact forestFindings_under (fun c hc node h => ih c hc h) []
      · rfl

/-- The findings on a tree that stands at a reference are those on the tree alone, each under the
reference. -/
theorem treeFindings_eq_under (hattr : q.attr = none) (hq : q.element = e.name) :
    treeFindings r q e = (structureFindings r e).map (Finding.under q) := by
  have hroot := NodeRef.under_root hattr e
  rw [structureFindings, ← treeFindings_under (by rw [hroot, hq]; rfl), hroot]

theorem path_of_mem_structureFindings (h : f ∈ structureFindings r e) (q : NodeRef) :
    ∃ rest, f.node.path = (NodeRef.root e).path ++ rest ∧
      (f.under q).node.path = q.path ++ rest := by
  -- the tree stands at its own root
  have hself : structureFindings r e = (structureFindings r e).map (Finding.under (.root e)) :=
    treeFindings_eq_under rfl rfl
  rw [hself] at h
  obtain ⟨g, -, rfl⟩ := List.mem_map.mp h
  have hroot : (NodeRef.root e).path = (NodeRef.root e).step.text := by
    simp [NodeRef.path, NodeRef.steps, NodeRef.root]
  rw [hroot]
  exact NodeRef.path_under (NodeRef.steps_prefix_under (.root e) g.node)

end OfficeSchema

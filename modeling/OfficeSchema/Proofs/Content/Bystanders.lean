import OfficeSchema.Proofs.Content.Progress

namespace OfficeSchema

def Node.isProper : Node → Bool
  | .typed _ _ _ => true
  | .unknown _ _ => true
  | _ => false

def Element.isProper (e : Element) : Bool := e.node.isProper

def bystanderNames : List String :=
  ["#comment", "#pi", "mc:AlternateContent", "mc:Choice", "mc:Fallback"]

theorem Node.name_mem_bystanderNames {n : Node} (h : n.isProper = false) :
    n.name ∈ bystanderNames := by
  cases n with
  | typed | unknown => simp [isProper] at h
  | comment | instruction => simp [name, bystanderNames]
  | wrapper w => cases w <;> simp [name, bystanderNames]

theorem Node.role_of_not_proper {n : Node} (h : n.isProper = false) (m : Model) :
    n.role m = .ignored := by
  cases n with
  | typed | unknown => simp [isProper] at h
  | comment | instruction | wrapper => rfl

theorem NodeRef.child_congr {before before' : List String} {name : String}
    (h : before.count name = before'.count name) (r : NodeRef) :
    r.child before name = r.child before' name := by
  rw [child, child, h]

variable {m : Model} {parent : NodeRef} {cs : List Element} {before before' : List String}

theorem contentFrom_proper
    (hcs : ∀ c ∈ cs, c.isProper = true → c.name ∉ bystanderNames)
    (hbefore : ∀ name, name ∉ bystanderNames → before'.count name = before.count name)
    (g : Progress) :
    contentFrom m parent g ((cs.filter Element.isProper).zip
      (parent.childrenFrom before' (cs.filter Element.isProper))) =
        contentFrom m parent g (cs.zip (parent.childrenFrom before cs)) := by
  induction cs generalizing before before' g with
  | nil => rfl
  | cons c cs ih =>
      obtain ⟨hc, hcs⟩ := List.forall_mem_cons.mp hcs
      rw [NodeRef.childrenFrom, List.zip_cons_cons]
      cases hp : c.isProper with
      | true =>
          have hnext : ∀ name, name ∉ bystanderNames →
              (c.name :: before').count name = (c.name :: before).count name := fun name hname => by
            rw [List.count_cons, List.count_cons, hbefore name hname]
          rw [List.filter_cons_of_pos hp, NodeRef.childrenFrom, List.zip_cons_cons,
            NodeRef.child_congr (hbefore c.name (hc hp)), contentFrom, contentFrom]
          cases c.node.role m with
          | slot s => exact congrArg _ (ih hcs hnext (g.take s))
          | stranger name => exact congrArg _ (ih hcs hnext g)
          | ignored => exact ih hcs hnext g
      | false =>
          have hnext : ∀ name, name ∉ bystanderNames →
              before'.count name = (c.name :: before).count name := fun name hname => by
            have hne : c.name ≠ name := fun he =>
              hname (he ▸ c.node.name_mem_bystanderNames hp)
            rw [hbefore name hname, List.count_cons_of_ne hne]
          rw [List.filter_cons_of_neg (by simp [hp]), contentFrom, Node.role_of_not_proper hp]
          exact ih hcs hnext g

/-- Without the bystanders among its children, an element has the same findings on its content, if
no other child bears the name of a bystander. -/
theorem content_findings_without_bystanders (m : Model) (parent : NodeRef) (children : List Element)
    (h : ∀ c ∈ children, c.isProper = true → c.name ∉ bystanderNames) :
    contentFindings m parent (children.filter Element.isProper) =
      contentFindings m parent children := by
  rw [contentFindings_eq_contentFrom, contentFindings_eq_contentFrom]
  exact contentFrom_proper h (fun _ _ => rfl) .start

theorem content_findings_without_bystanders_scattered :
    let m := Model.ofParticle .office2007 (.group .sequence .once
      [.leaf ⟨⟨"a"⟩, .once, none⟩, .leaf ⟨⟨"b"⟩, .once, none⟩, .leaf ⟨⟨"c"⟩, .once, none⟩])
    let node (k : String) : Element := .ofNode (.typed ⟨k⟩ ⟨0, k⟩ .empty)
    let wrapper : Element := { Element.ofNode (.wrapper .content) with children := [node "c"] }
    let parent : NodeRef := ⟨[], ⟨"p", 1⟩, none⟩
    let children := [.ofNode (.comment "a"), node "b", wrapper, node "a",
      .ofNode (.instruction "b"), .ofNode (.unknown "x" none), wrapper, node "a"]
    (∀ c ∈ children, c.isProper = true → c.name ∉ bystanderNames) ∧
      children.filter Element.isProper =
        [node "b", node "a", .ofNode (.unknown "x" none), node "a"] ∧
      (contentFindings m parent children).map (fun f => (f.defect.rule, f.node.path)) =
        [("Sch_UnexpectedElementContent", "/p[1]/a[1]"),
          ("Sch_InvalidElementContent", "/p[1]/x[1]"),
          ("Sch_UnexpectedElementContent", "/p[1]/a[2]"), ("Sch_TooManyElements", "/p[1]/a[2]"),
          ("Sch_IncompleteContent", "/p[1]")] := by
  intro m node wrapper parent children
  have hnames : ∀ c ∈ children, c.isProper = true → c.name ∉ bystanderNames := by decide
  refine ⟨hnames, rfl, ?_⟩
  rw [← content_findings_without_bystanders m parent children hnames]
  decide +kernel

end OfficeSchema

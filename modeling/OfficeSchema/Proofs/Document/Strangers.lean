import OfficeSchema.Element.Outline
import OfficeSchema.Proofs.Attempts
import OfficeSchema.Proofs.Content.Verdict
import OfficeSchema.Proofs.Document.References
import OfficeSchema.Proofs.Document.Typing
import OfficeSchema.Proofs.Validation.Ledger
import OfficeSchema.Validator

namespace OfficeSchema

def Finding.IsInvalidChild (f : Finding) : Prop := f.defect.rule = "Sch_InvalidElementContent"

variable {r : Registry} {e root : Element} {node : NodeRef} {f : Finding}

theorem ValueFrame.not_invalidChild {frame : ValueFrame} (h : f ∈ frame.findings) :
    ¬f.IsInvalidChild := by
  obtain ⟨d, hd, rfl⟩ := List.mem_map.mp h
  unfold defects at hd
  split at hd
  · obtain ⟨facet, -, rfl⟩ := List.mem_map.mp hd
    cases facet <;> simp [Finding.IsInvalidChild, Finding.ofDefect, Defect.rule, Defect.facetRule]
  · obtain rfl := List.mem_singleton.mp hd
    simp only [Finding.IsInvalidChild, Finding.ofDefect, Defect.rule]
    split <;> simp

theorem attributesFindings_not_invalidChild {v : Version} {d : Declaration}
    (h : f ∈ attributesFindings v d node e) : ¬f.IsInvalidChild := by
  rcases List.mem_append.mp h with h | h
  · obtain ⟨defect, hd, rfl⟩ := List.mem_map.mp h
    obtain ⟨a, -, rfl⟩ := List.mem_map.mp hd
    simp [Finding.IsInvalidChild, Finding.ofDefect, Defect.rule]
  · obtain ⟨a, -, h⟩ := List.mem_flatMap.mp h
    unfold attributeFindings at h
    split at h
    · simp at h
    · dsimp only at h
      split at h
      · exact ValueFrame.not_invalidChild h
      · obtain rfl := List.mem_singleton.mp h
        simp [Finding.IsInvalidChild, Finding.ofDefect, Defect.rule]

theorem not_invalidChild_of_mem_ite {P : Prop} [Decidable P] {d : Defect}
    (hd : d.rule ≠ "Sch_InvalidElementContent")
    (h : f ∈ if P then [Finding.ofDefect node d] else []) : ¬f.IsInvalidChild := by
  obtain ⟨-, h⟩ := List.mem_ite_nil_right.mp h
  obtain rfl := List.mem_singleton.mp h
  exact hd

theorem leafChildren_not_invalidChild (h : f ∈ leafChildren node e) : ¬f.IsInvalidChild :=
  not_invalidChild_of_mem_ite (by simp [Defect.rule]) h

theorem rule_of_defect? {index : ValueIndex} {place : Option (Package × String)} {v : Visited}
    {x : Option String × Defect} (rule : Rule) (h : rule.defect? index place v = some x) :
    x.2.rule ≠ "Sch_InvalidElementContent" := by
  cases rule <;>
    simp only [Rule.defect?, Option.bind_eq_bind, Option.bind_eq_some_iff,
      Option.ite_none_left_eq_some, Option.ite_none_right_eq_some, Option.some.injEq] at h
  case unique =>
    obtain ⟨value, -, -, rfl⟩ := h
    simp [Defect.rule]
  case reference =>
    obtain ⟨value, -, -, rfl⟩ := h
    simp [Defect.rule]
  case relationship =>
    obtain ⟨value, -, x, -, -, rfl⟩ := h
    simp [Defect.rule]
  case exclusive =>
    obtain ⟨-, rfl⟩ := h
    simp [Defect.rule]
  case conditional =>
    obtain ⟨value, -, -, rfl⟩ := h
    simp [Defect.rule]

theorem meaningFindings_not_invalidChild {family : Family} {place : Option (Package × String)}
    (h : f ∈ meaningFindings r family place root) : ¬f.IsInvalidChild := by
  obtain ⟨v, -, h⟩ := List.mem_flatMap.mp h
  obtain ⟨c, -, h⟩ := List.mem_filterMap.mp h
  obtain ⟨x, hx, rfl⟩ := Option.map_eq_some_iff.mp h
  exact rule_of_defect? c.rule hx

theorem exists_stranger_of_contentFrom {m : Model} {g : Progress} {cs : List (Element × NodeRef)}
    (h : f ∈ contentFrom m node g cs) (hf : f.IsInvalidChild) :
    ∃ c ∈ cs, f.node = c.2 ∧ m.IsStranger c.1 := by
  induction cs generalizing g with
  | nil =>
      obtain ⟨d, hd, rfl⟩ := List.mem_map.mp h
      rw [Finding.IsInvalidChild, Finding.ofDefect, Model.rule_of_mem_missing hd] at hf
      exact absurd hf (by decide)
  | cons c cs ih =>
      obtain ⟨c, ref⟩ := c
      have hrole := m.role_spec c
      rw [contentFrom] at h
      have later {g : Progress} (h : f ∈ contentFrom m node g cs) :
          ∃ x ∈ (c, ref) :: cs, f.node = x.2 ∧ m.IsStranger x.1 := by
        obtain ⟨x, hx, hstr⟩ := ih h
        exact ⟨x, List.mem_cons_of_mem _ hx, hstr⟩
      cases hr : c.node.role m with
      | slot s =>
          rw [hr] at h
          rcases List.mem_append.mp h with h | h
          · obtain ⟨d, hd, rfl⟩ := List.mem_map.mp h
            rw [Finding.IsInvalidChild, Finding.ofDefect] at hf
            rcases Model.rule_of_mem_slotDefects hd with hd | ⟨hd, -⟩ <;> simp [hd] at hf
          · exact later h
      | stranger name =>
          rw [hr] at h hrole
          rcases List.mem_cons.mp h with rfl | h
          · exact ⟨(c, ref), by simp, rfl, hrole.2⟩
          · exact later h
      | ignored =>
          rw [hr] at h
          exact later h

theorem exists_stranger_of_contentFindings {m : Model} {children : List Element}
    (h : f ∈ contentFindings m node children) (hf : f.IsInvalidChild) :
    ∃ i c, children[i]? = some c ∧ m.IsStranger c ∧
      f.node = node.child ((children.take i).map Element.name) c.name := by
  rw [contentFindings_eq_contentFrom] at h
  obtain ⟨⟨c, ref⟩, hmem, hnode, hstr⟩ := exists_stranger_of_contentFrom h hf
  obtain ⟨i, hi⟩ := List.mem_iff_getElem?.mp hmem
  obtain ⟨hc, href⟩ := List.getElem?_zip_eq_some.mp hi
  rw [NodeRef.getElem?_children, hc, Option.map_some] at href
  exact ⟨i, c, hc, hstr, hnode.trans (Option.some.inj href).symm⟩

theorem exists_content_of_nodeFindings (h : f ∈ nodeFindings r node e) (hf : f.IsInvalidChild) :
    ∃ k i content, e.node = .typed k i .composite ∧ r.content? k = some content ∧
      f ∈ contentFindings content.model node e.children := by
  unfold nodeFindings at h
  split at h
  · next k i c hn =>
      split at h
      · next d hd =>
          rcases List.mem_append.mp h with h | h
          · exact absurd hf (attributesFindings_not_invalidChild h)
          · cases c with
            | composite =>
                rcases List.mem_append.mp h with h | h
                · exact absurd hf (not_invalidChild_of_mem_ite (by simp [Defect.rule]) h)
                · split at h
                  · next content hc =>
                      rw [Registry.kind_of_lookup? hd] at hc
                      exact ⟨k, i, content, hn, hc, h⟩
                  · simp at h
            | text =>
                rcases List.mem_append.mp h with h | h
                · exact absurd hf (leafChildren_not_invalidChild h)
                · exact absurd hf (ValueFrame.not_invalidChild h)
            | empty =>
                rcases List.mem_append.mp h with h | h
                · exact absurd hf (leafChildren_not_invalidChild h)
                · exact absurd hf (not_invalidChild_of_mem_ite (by simp [Defect.rule]) h)
      · simp at h
  · simp at h

theorem exists_child_of_forestFindings {cs : List Element} {before : List String}
    (h : f ∈ forestFindings r node before cs) : ∃ i c, cs[i]? = some c ∧ f ∈ treeFindings r
      (node.child (((cs.take i).map Element.name).reverse ++ before) c.name) c := by
  induction cs generalizing before with
  | nil => simp [forestFindings] at h
  | cons c cs ih =>
      rw [forestFindings, List.mem_append] at h
      rcases h with h | h
      · exact ⟨0, c, rfl, by simpa using h⟩
      · obtain ⟨i, d, hd, h⟩ := ih h
        exact ⟨i + 1, d, hd, by simpa using h⟩

theorem exists_node_of_treeFindings (h : f ∈ treeFindings r node e) :
    ∃ is a, e.descendant? is = some a ∧ f ∈ nodeFindings r (node.along is e) a := by
  induction e using Element.induct generalizing node with
  | node n attributes text children ih =>
      rw [treeFindings, List.mem_append] at h
      rcases h with h | h
      · exact ⟨[], _, rfl, h⟩
      · split at h
        · obtain ⟨i, c, hc, h⟩ := exists_child_of_forestFindings h
          rw [List.append_nil, NodeRef.child_reverse] at h
          obtain ⟨is, a, ha, h⟩ := ih c (List.mem_of_getElem? hc) h
          refine ⟨i :: is, a, by simp [Element.descendant?, hc, ha], ?_⟩
          simpa [NodeRef.along, hc] using h
        · simp at h

/-- A finding on an unknown node below the root, and on no other node of the tree. -/
def Finding.OnUnknown (f : Finding) (root : Element) : Prop :=
  ∃ is a, is ≠ [] ∧ root.descendant? is = some a ∧ a.node.isUnknown = true ∧
    ∀ js, (root.descendant? js).isSome = true →
      (f.node = (NodeRef.root root).along js root ↔ js = is)

namespace Document

theorem Fits.isUnknown_of_isStranger {place : Place} (h : Fits r place e) {k : Kind} {i : Identity}
    {c : Capability} {content : Content} (hn : e.node = .typed k i c)
    (hc : r.content? k = some content) {j : Nat} {d : Element} (hd : e.children[j]? = some d)
    (hs : content.model.IsStranger d) : d.node.isUnknown = true := by
  have hsettled := (h.child hd).settled
  rw [Model.IsStranger] at hs
  cases hdn : d.node with
  | typed l i' c' =>
      -- its place is under the content model that it is a stranger to
      rw [hdn] at hsettled hs
      obtain ⟨m, hm, hl⟩ := hsettled.2.2
      rw [hn, modelBelow, hc, Option.map_some] at hm
      obtain rfl := Option.some.inj hm
      rw [Model.contains_eq, decide_eq_true_eq] at hl
      exact absurd hl hs
  | unknown name address => rfl
  | comment text => simp [hdn] at hs
  | instruction text => simp [hdn] at hs
  | wrapper w => simp [hdn] at hs

theorem Fits.onUnknown (hr : r.Sound) (h : Fits r .root root)
    (hf : f ∈ structureFindings r root) (hi : f.IsInvalidChild) : f.OnUnknown root := by
  obtain ⟨is, a, ha, hf⟩ := exists_node_of_treeFindings hf
  obtain ⟨k, i, content, hn, hc, hf⟩ := exists_content_of_nodeFindings hf hi
  obtain ⟨j, d, hd, hs, hnode⟩ := exists_stranger_of_contentFindings hf hi
  obtain ⟨inner, hfits, -, -⟩ := h.descendant hr (governed_root r) ha
  have hat : root.descendant? (is ++ [j]) = some d := by
    rw [Element.descendant?_append, ha]
    simp [Element.descendant?, hd]
  have href : f.node = (NodeRef.root root).along (is ++ [j]) root := by
    rw [hnode, NodeRef.along_append ha]
    simp [NodeRef.along, hd]
  refine ⟨is ++ [j], d, by simp, hat, hfits.isUnknown_of_isStranger hn hc hd hs, fun js hjs => ?_⟩
  constructor
  · intro he
    exact (NodeRef.along_inj (by simp [hat]) hjs (href.symm.trans he)).symm
  · rintro rfl
    exact href

/-- What was read from events, whatever these are, is typed by its places, and checks under the
same registry call no child of it invalid but unknown ones. -/
theorem ofEvents_wellTyped {v : Version} {t : Namespace.Table} {ds : List Declaration}
    {es : List Markup.Event} (hb : Registry.build v t ds = .ok r)
    (h : ofEvents r es = .ok root) :
    WellTyped r root ∧ ∀ c : Context, c.registry = r →
      ∀ f ∈ (c.checkAll root).ledger.findings, f ∉ c.ledger.findings → f.IsInvalidChild →
        f.OnUnknown root := by
  have hr := Registry.sound_of_build hb
  have hfits : Fits r .root root := fits_ofEvents hr h
  refine ⟨hfits.wellTyped hr, ?_⟩
  rintro c rfl f hf hnew hi
  rw [Context.checkAll, Context.ledger_checks] at hf
  rcases Ledger.exists_of_mem_addAll hf with hold | ⟨g, hg, rfl⟩
  · exact absurd hold hnew
  · have hg' : g.IsInvalidChild := hi
    rcases List.mem_append.mp hg with hg | hg
    · have hon : g.OnUnknown root := hfits.onUnknown hr hg hg'
      exact hon
    · exact absurd hg' (meaningFindings_not_invalidChild hg)

theorem parse_wellTyped {v : Version} {t : Namespace.Table} {ds : List Declaration} {xml : String}
    (hb : Registry.build v t ds = .ok r) (h : parse r xml = .ok root) :
    WellTyped r root ∧ ∀ c : Context, c.registry = r →
      ∀ f ∈ (c.checkAll root).ledger.findings, f ∉ c.ledger.findings → f.IsInvalidChild →
        f.OnUnknown root :=
  ofEvents_wellTyped hb h

def listNamespaces : Namespace.Table := ⟨[⟨1, "n", "urn:n"⟩]⟩

def listSchema : List Declaration :=
  [{ Declaration.bare ⟨"n:list"⟩ ⟨1, "list"⟩ .composite with
      content := some (.group .sequence .once [.leaf ⟨⟨"n:item"⟩, .zeroOrMore, none⟩]) },
    .bare ⟨"n:item"⟩ ⟨1, "item"⟩ .text]

theorem parse_wellTyped_list_in_list :
    ∃ r root, Registry.build .office2007 listNamespaces listSchema = .ok r ∧
      parse r "<list xmlns='urn:n'> <item> </item><list/></list>" = .ok root ∧
      root.outline = "n:list(@xmlns=urn:n,n:item(\" \"),list)" ∧ WellTyped r root ∧
      (structureFindings r root).map (fun f => (f.defect.rule, f.node.path)) =
        [("Sch_InvalidElementContent", "/n:list[1]/list[1]")] ∧
      ∀ f ∈ ((Context.start r 0).checkAll root).ledger.findings, f.IsInvalidChild →
        f.OnUnknown root := by
  have h : ((Registry.build .office2007 listNamespaces listSchema).toOption.bind fun r =>
      (parse r "<list xmlns='urn:n'> <item> </item><list/></list>").toOption.map fun root =>
        (root.outline, (structureFindings r root).map (fun f => (f.defect.rule, f.node.path)))) =
      some ("n:list(@xmlns=urn:n,n:item(\" \"),list)",
        [("Sch_InvalidElementContent", "/n:list[1]/list[1]")]) := by
    decide +kernel
  obtain ⟨r, hr, h⟩ := Option.bind_eq_some_iff.mp h
  obtain ⟨root, hroot, h⟩ := Option.map_eq_some_iff.mp h
  obtain ⟨houtline, hfindings⟩ := Prod.mk.inj h
  have hb := eq_ok_of_toOption hr
  have hp := eq_ok_of_toOption hroot
  obtain ⟨htyped, hinvalid⟩ := parse_wellTyped hb hp
  exact ⟨r, root, hb, hp, houtline, htyped, hfindings, fun f hf hi =>
    hinvalid (Context.start r 0) rfl f hf (by simp [Context.start, Ledger.empty]) hi⟩

end Document

end OfficeSchema

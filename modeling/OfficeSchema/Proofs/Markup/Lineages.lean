import Mathlib.Data.List.Nodup
import OfficeSchema.Markup.Attributes

/-!
Lineages of tags. Each tag that starts an element stands inside the tags that are open there, and
what is read between a start tag and its end tag leaves the open tags as they were. A tag gives no
key twice, so that it does not matter where in the tag a key stands.
-/

namespace OfficeSchema.Markup

def Tag.value? (t : Tag) (key : String) : Option String :=
  t.attributes.toOption.bind (fun pairs => pairs.lookup key)

theorem Tag.value?_eq {t : Tag} {pairs : List (String × String)} (h : t.attributes = .ok pairs)
    (key : String) : t.value? key = pairs.lookup key := by
  rw [value?, h]
  rfl

theorem nodup_attributesFrom {keys : List (List Char)} {s : List Char}
    {pairs : List (String × String)} (h : attributesFrom keys s = .ok pairs) :
    (pairs.map Prod.fst).Nodup ∧ ∀ p ∈ pairs, p.1.toList ∉ keys := by
  fun_induction attributesFrom keys s generalizing pairs with
  | case1 =>
      obtain rfl := Except.ok.inj h
      simp
  | case2 => simp at h
  | case3 => simp at h
  | case4 => simp at h
  | case5 keys s t ht key raw rest hpair hkey value hvalue others hothers =>
      rename_i ih
      obtain rfl := Except.ok.inj h
      obtain ⟨hnodup, hnew⟩ := ih hothers
      have hfirst : String.ofList key ∉ others.map Prod.fst := by
        intro hmem
        obtain ⟨p, hp, hk⟩ := List.mem_map.mp hmem
        have hne := hnew p hp
        simp [hk] at hne
      refine ⟨List.nodup_cons.mpr ⟨hfirst, hnodup⟩, fun p hp => ?_⟩
      rcases List.mem_cons.mp hp with rfl | hp
      · simpa using hkey
      · exact fun hmem => hnew p hp (List.mem_cons_of_mem _ hmem)
  | case6 => simp at h

theorem Tag.nodup_attributes {t : Tag} {pairs : List (String × String)}
    (h : t.attributes = .ok pairs) : (pairs.map Prod.fst).Nodup :=
  (nodup_attributesFrom h).1

namespace Event

def lineage (around : List Tag) : Event → List (List Tag)
  | .opening t => [t :: around]
  | .single t => [t :: around]
  | _ => []

def openBehind (around : List Tag) : Event → List Tag
  | .opening t => t :: around
  | .closing => around.tail
  | _ => around

end Event

/-- The tags that start elements, in order, each in front of the tags that are open around it. -/
def lineages (around : List Tag) : List Event → List (List Tag)
  | [] => []
  | e :: es => e.lineage around ++ lineages (e.openBehind around) es

def openAfter (around : List Tag) (es : List Event) : List Tag :=
  es.foldl (fun tags e => e.openBehind tags) around

/-- Events of whole elements and of what stands between them. -/
inductive Balanced : List Event → Prop
  | nil : Balanced []
  | cons {e : Event} {es : List Event} (he : ∀ around, e.openBehind around = around)
      (h : Balanced es) : Balanced (e :: es)
  | element {t : Tag} {es fs : List Event} (inside : Balanced es) (behind : Balanced fs) :
      Balanced (.opening t :: (es ++ .closing :: fs))

variable {es fs gs : List Event}

theorem lineages_append (around : List Tag) (es fs : List Event) :
    lineages around (es ++ fs) = lineages around es ++ lineages (openAfter around es) fs := by
  induction es generalizing around with
  | nil => rfl
  | cons e es ih =>
      rw [List.cons_append, lineages, lineages, ih, List.append_assoc]
      rfl

theorem openAfter_of_balanced (h : Balanced es) (around : List Tag) :
    openAfter around es = around := by
  induction h generalizing around with
  | nil => rfl
  | cons he _ ih =>
      rw [openAfter, List.foldl_cons, he]
      exact ih around
  | @element t es fs _ _ inside behind =>
      rw [openAfter, List.foldl_cons, List.foldl_append, List.foldl_cons]
      have hinside := inside (t :: around)
      rw [openAfter] at hinside
      rw [Event.openBehind, hinside]
      exact behind around

theorem lineages_around_balanced (h : Balanced fs) (around : List Tag) :
    lineages around (es ++ fs ++ gs) = lineages around es ++
      lineages (openAfter around es) fs ++ lineages (openAfter around es) gs := by
  have hopen : openAfter around (es ++ fs) = openAfter around es := by
    rw [openAfter, List.foldl_append]
    exact openAfter_of_balanced h _
  rw [lineages_append, lineages_append, hopen]

end OfficeSchema.Markup

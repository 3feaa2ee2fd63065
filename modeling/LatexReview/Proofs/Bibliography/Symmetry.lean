import Mathlib
import LatexReview.Proofs.Bibliography.Duplicates
import LatexReview.Proofs.Bibliography.Subsequence

/-!
The similarity of two entries, there and back.

The fields of one entry are gone through, and those of the other one are looked up by their
names. The first field of a name is found. So if no common name is repeated, the same pairs of
values are compared both ways, in different orders; in exact arithmetic the mean is the same. A
repeated name counts as often as it stands in the entry that comes first.
-/

namespace LatexReview.Bibliography

variable {a b e : Entry} {name value : Text}

/-! ### Names -/

def Entry.names (e : Entry) : List Text := e.fields.map (·.1)

/-- The names in the first entry that the second one has, too. -/
def sharedNames (a b : Entry) : List Text := a.names.filter (· ∈ b.names)

lemma sharedNames_eq (a b : Entry) :
    sharedNames a b = (a.fields.filter fun field => field.1 ∈ b.names).map (·.1) :=
  List.filter_map

lemma mem_sharedNames : name ∈ sharedNames a b ↔ name ∈ a.names ∧ name ∈ b.names := by
  simp [sharedNames]

lemma exists_field? (h : name ∈ e.names) : ∃ value, e.field? name = some value := by
  obtain ⟨⟨_, value⟩, hfield, rfl⟩ := List.mem_map.1 h
  exact Option.isSome_iff_exists.1 (List.lookup_isSome_iff.2 ⟨_, hfield, beq_self_eq_true _⟩)

lemma field?_eq_none (h : name ∉ e.names) : e.field? name = none := by
  refine List.lookup_eq_none_iff.2 fun field hfield => ?_
  have hne : name ≠ field.1 := fun heq => h (heq ▸ List.mem_map_of_mem hfield)
  simpa using hne

lemma field?_eq_some (h : (sharedNames a b).Nodup) (hfield : (name, value) ∈ a.fields)
    (hname : name ∈ b.names) : a.field? name = some value := by
  obtain ⟨first, hfirst⟩ := exists_field? (e := a) (List.mem_map_of_mem hfield)
  rw [sharedNames_eq] at h
  have hmem {other : Text} (hother : (name, other) ∈ a.fields) :
      (name, other) ∈ a.fields.filter fun field => field.1 ∈ b.names :=
    List.mem_filter.2 ⟨hother, by simpa using hname⟩
  have heq := List.inj_on_of_nodup_map h (hmem (mem_of_lookup_eq_some hfirst)) (hmem hfield) rfl
  rw [hfirst, (Prod.mk.inj heq).2]

/-! ### Ratios -/

/-- The exact ratio of what a name leads to in both entries. -/
def ratioAt (a b : Entry) (name : Text) : ℚ :=
  ratio id (clean ((a.field? name).getD [])) (clean ((b.field? name).getD []))

lemma ratioAt_comm (a b : Entry) : ratioAt a b = ratioAt b a :=
  funext fun _ => ratio_comm id _ _

lemma fieldRatios_eq (h : (sharedNames a b).Nodup) :
    fieldRatios id a b = (sharedNames a b).map (ratioAt a b) := by
  have hfields : fieldRatios id a b = a.fields.filterMap fun field =>
      if field.1 ∈ b.names then some (ratioAt a b field.1) else none := by
    refine List.filterMap_congr fun ⟨name, value⟩ hfield => ?_
    dsimp only
    split_ifs with hname
    · obtain ⟨other, hother⟩ := exists_field? hname
      simp [ratioAt, hother, field?_eq_some h hfield hname]
    · simp [field?_eq_none hname]
  rw [hfields, sharedNames_eq, List.map_map, ← List.filterMap_eq_map, List.filterMap_filter]
  simp [Function.comp_def]

lemma perm_sharedNames (ha : (sharedNames a b).Nodup) (hb : (sharedNames b a).Nodup) :
    (sharedNames a b).Perm (sharedNames b a) := by
  refine (List.perm_ext_iff_of_nodup ha hb).2 fun name => ?_
  rw [mem_sharedNames, mem_sharedNames, and_comm]

lemma perm_fieldRatios (ha : (sharedNames a b).Nodup) (hb : (sharedNames b a).Nodup) :
    (fieldRatios id a b).Perm (fieldRatios id b a) := by
  rw [fieldRatios_eq ha, fieldRatios_eq hb, ratioAt_comm]
  exact (perm_sharedNames ha hb).map _

/-! ### Means -/

lemma Tally.add_add_comm (t : Tally) (x y : ℚ) :
    (t.add id x).add id y = (t.add id y).add id x := by
  simp only [Tally.add, id, add_right_comm]

/-- **Exact similarity does not depend on which entry comes first**, if neither of them repeats a
name that both have. -/
theorem similarity_comm (ha : (sharedNames a b).Nodup) (hb : (sharedNames b a).Nodup) :
    similarity? id a b = similarity? id b a := by
  have htally : tally id a b = tally id b a := by
    rw [tally, tally, ratio_comm]
    exact (perm_fieldRatios ha hb).foldl_eq' (fun x _ y _ t => t.add_add_comm x y) _
  rw [similarity?, similarity?, htally]

/-! ### Fields in another order, and a field written twice -/

def reorderedFile : Text := "@b{x,t={A},n=1,n=2,u={CD}}@b{y,u={CE},t={B}}".toList

def fourFields : Entry :=
  ⟨['b'], ['x'], [(['t'], "{A}".toList), (['n'], ['1']), (['n'], ['2']), (['u'], "{CD}".toList)]⟩

def twoFields : Entry := ⟨['b'], ['y'], [(['u'], "{CE}".toList), (['t'], "{B}".toList)]⟩

theorem similarity_comm_reordered :
    entries reorderedFile = [fourFields, twoFields] ∧
      (sharedNames fourFields twoFields).Nodup ∧ (sharedNames twoFields fourFields).Nodup ∧
      similarity? id fourFields twoFields = similarity? id twoFields fourFields ∧
      similarity? id fourFields twoFields = some (1 / 2) := by
  have hfour : (sharedNames fourFields twoFields).Nodup := by decide
  have htwo : (sharedNames twoFields fourFields).Nodup := by decide
  exact ⟨by cbv, hfour, htwo, similarity_comm hfour htwo, by decide +kernel⟩

def repeatedFile : Text := "@a{x,t={A},t={B}}@a{y,t={A}}".toList

def titledTwice : Entry := ⟨['a'], ['x'], [(['t'], "{A}".toList), (['t'], "{B}".toList)]⟩

def titledOnce : Entry := ⟨['a'], ['y'], [(['t'], "{A}".toList)]⟩

/-- **The order of two entries may count**: both fields of a repeated name are compared with the
one of the other entry, but only the first of them is found from there. -/
theorem similarity_titledTwice :
    entries repeatedFile = [titledTwice, titledOnce] ∧
      similarity? id titledTwice titledOnce = some (2 / 3) ∧
      similarity? id titledOnce titledTwice = some 1 ∧
      areDuplicates titledTwice titledOnce = false ∧
      areDuplicates titledOnce titledTwice = true :=
  ⟨by cbv, by decide +kernel, by decide +kernel, by decide +kernel, by decide +kernel⟩

end LatexReview.Bibliography

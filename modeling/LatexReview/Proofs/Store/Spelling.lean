import Mathlib
import LatexReview.Proofs.Store.Append
import LatexReview.Proofs.Text.Fields

/-!
Spellings of a path.

The components of a path say where it leads: two paths with the same ones lead to one place,
if they lead anywhere. The directory of a path, and a path inside a directory, have components
that are made from components. Besides these, a path may be too long, or go on behind a file.
-/

namespace LatexReview

namespace Path

variable {p q directory : Path} {c : Char}

/-! ### Lead and names -/

/-- The parts between slashes that are components. -/
def nameParts (p : Path) : List Text := (p.splitOn separator).filter (!isIdle ·)

/-- The component before the names: the root, or the dot that the path begins with. -/
def lead (p : Path) : List Component :=
  if p.isAbsolute then [.root]
  else if (p.splitOn separator).head? = some ['.'] then [.current]
  else []

lemma components_eq (p : Path) : p.components = p.lead ++ p.nameParts.map .name := by
  unfold components lead nameParts
  dsimp only
  split
  · rfl
  · split <;> rfl

lemma lead_congr (habsolute : p.isAbsolute = q.isAbsolute)
    (hhead : (p.splitOn separator).head? = (q.splitOn separator).head?) : p.lead = q.lead := by
  rw [lead, lead, habsolute, hhead]

lemma isAbsolute_eq_of_lead (h : p.lead = q.lead) : p.isAbsolute = q.isAbsolute := by
  have habsolute : ∀ r : Path, r.isAbsolute = true ↔ r.lead = [.root] := by
    intro r
    unfold lead
    split
    · simp_all
    · split <;> simp_all
  rw [Bool.eq_iff_iff, habsolute, habsolute, h]

/-- The text of a component that is a name. -/
def Component.name? : Component → Option Text
  | .name text => some text
  | _ => none

lemma filterMap_name?_components (p : Path) :
    p.components.filterMap Component.name? = p.nameParts := by
  have hlead : p.lead.filterMap Component.name? = [] := by
    unfold lead
    split
    · rfl
    · split <;> rfl
  have hnames : (p.nameParts.map Component.name).filterMap Component.name? = p.nameParts := by
    rw [List.filterMap_map]
    exact List.filterMap_some
  rw [components_eq, List.filterMap_append, hlead, hnames, List.nil_append]

lemma same_iff : p.same q ↔ p.lead = q.lead ∧ p.nameParts = q.nameParts := by
  simp only [same, decide_eq_true_eq]
  constructor
  · intro h
    have hnames := congrArg (List.filterMap Component.name?) h
    rw [filterMap_name?_components, filterMap_name?_components] at hnames
    rw [components_eq p, components_eq q, hnames] at h
    exact ⟨List.append_cancel_right h, hnames⟩
  · rintro ⟨hlead, hnames⟩
    rw [components_eq, components_eq, hlead, hnames]

@[simp] lemma same_refl (p : Path) : p.same p := by simp [same]

lemma same_comm : p.same q ↔ q.same p := by simp [same, eq_comm]

lemma same_trans {r : Path} (hpq : p.same q) (hqr : q.same r) : p.same r := by
  simp only [same, decide_eq_true_eq] at *
  exact hpq.trans hqr

lemma mem_iff_mem_nameParts (hslash : c ≠ separator) (hdot : c ≠ '.') :
    c ∈ p ↔ ∃ part ∈ p.nameParts, c ∈ part := by
  have hjoin : Text.join [separator] (p.splitOn separator) = p := List.intercalate_splitOn separator
  constructor
  · intro hc
    rw [← hjoin] at hc
    rcases Text.mem_of_mem_join hc with hsep | ⟨part, hpart, hc⟩
    · exact absurd (List.mem_singleton.1 hsep) hslash
    · refine ⟨part, List.mem_filter.2 ⟨hpart, ?_⟩, hc⟩
      have hne : part ≠ [] := List.ne_nil_of_mem hc
      have hdotted : part ≠ ['.'] := by
        rintro rfl
        exact hdot (List.mem_singleton.1 hc)
      simp [isIdle, hne, hdotted]
  · rintro ⟨part, hpart, hc⟩
    rw [← hjoin]
    exact Text.mem_join_of_mem (List.mem_of_mem_filter hpart) hc

/-! ### Inside a directory -/

@[simp] lemma lead_nil : lead [] = [] := rfl
@[simp] lemma nameParts_nil : nameParts [] = [] := rfl

lemma nameParts_slash (p q : Path) :
    nameParts (p ++ separator :: q) = p.nameParts ++ q.nameParts := by
  rw [nameParts, List.splitOn_append_cons_self, List.filter_append]
  rfl

lemma lead_slash (p q : Path) : lead (p ++ separator :: q) = lead (p ++ [separator]) := by
  refine lead_congr (by cases p <;> rfl) ?_
  rw [List.splitOn_append_cons_self, List.splitOn_append_cons_self,
    List.head?_append_of_ne_nil _ (List.splitOn_ne_nil _ _),
    List.head?_append_of_ne_nil _ (List.splitOn_ne_nil _ _)]

lemma lead_slash_of_ne_nil (h : p ≠ []) : lead (p ++ [separator]) = p.lead := by
  refine lead_congr ?_ ?_
  · cases p with
    | nil => exact absurd rfl h
    | cons => rfl
  · rw [List.splitOn_append_cons_self, List.head?_append_of_ne_nil _ (List.splitOn_ne_nil _ _)]

lemma components_join (hd : directory ≠ []) (hp : p.isAbsolute = false) :
    (join directory p).components = directory.components ++ p.nameParts.map .name := by
  rw [join, hp, if_neg Bool.false_ne_true]
  split
  · rename_i h
    have hlast : directory.getLast? = some separator := by simpa [hd] using h
    obtain ⟨before, rfl⟩ : ∃ before, directory = before ++ [separator] :=
      ⟨_, (List.dropLast_append_getLast? _ hlast).symm⟩
    rw [List.append_assoc, List.singleton_append, components_eq, components_eq, lead_slash,
      nameParts_slash, nameParts_slash]
    simp
  · rw [components_eq, components_eq, lead_slash, lead_slash_of_ne_nil hd, nameParts_slash]
    simp

lemma components_eq_nil_iff : p.components = [] ↔ p = [] := by
  refine ⟨fun h => ?_, fun h => h ▸ rfl⟩
  obtain ⟨hlead, hnames⟩ := List.append_eq_nil_iff.1 (components_eq p ▸ h)
  by_contra hne
  obtain ⟨c, rest, rfl⟩ := List.exists_cons_of_ne_nil hne
  obtain ⟨first, others, hsplit⟩ := List.exists_cons_of_ne_nil
    (List.splitOn_ne_nil separator (c :: rest))
  have hidle : ∀ part ∈ first :: others, isIdle part := by
    simpa [nameParts, hsplit] using hnames
  have hfirst : first = [] ∨ first = ['.'] := by simpa [isIdle] using hidle first (by simp)
  rcases hfirst with rfl | rfl
  · -- an empty first part means a slash in front
    have hslash : c = separator := by
      rw [List.splitOn_cons_eq_if_modifyHead] at hsplit
      by_contra hc
      obtain ⟨part, parts, hrest⟩ := List.exists_cons_of_ne_nil (List.splitOn_ne_nil separator rest)
      simp [hc, hrest] at hsplit
    simp [lead, isAbsolute, hslash] at hlead
  · by_cases habsolute : isAbsolute (c :: rest)
    · simp [lead, habsolute] at hlead
    · simp [lead, habsolute, hsplit] at hlead

lemma same_join {other : Path} (h : directory.same other) (p : Path) :
    (join directory p).same (join other p) := by
  have hcomponents : directory.components = other.components := by simpa [same] using h
  cases hp : p.isAbsolute with
  | true => simp [join, hp]
  | false =>
    by_cases hd : directory = []
    · have hother : other = [] := by
        rw [← components_eq_nil_iff, ← hcomponents, components_eq_nil_iff]
        exact hd
      simp [hd, hother]
    · have hother : other ≠ [] := by
        rwa [Ne, ← components_eq_nil_iff, ← hcomponents, components_eq_nil_iff]
      simp [same, components_join hd hp, components_join hother hp, hcomponents]

/-! ### The directory of a path -/

lemma map_fst_endings (offset : ℕ) (parts : List Text) :
    (endings offset parts).map (·.1) = parts := by
  induction parts generalizing offset with
  | nil => rfl
  | cons part parts ih => simp [endings, ih]

lemma map_fst_names (p : Path) : p.names.map (·.1) = p.nameParts := by
  have h := List.filter_map (f := fun x : Text × ℕ => x.1) (p := (!isIdle ·))
    (l := endings 0 (p.splitOn separator))
  rw [map_fst_endings] at h
  exact h.symm

lemma eq_of_endings {offset stop : ℕ} {parts : List Text} {part : Text}
    {before after : List (Text × ℕ)} (h : endings offset parts = before ++ (part, stop) :: after) :
    stop = offset + (Text.join [separator] (before.map (·.1) ++ [part])).length ∧
      Text.join [separator] (before.map (·.1) ++ [part]) <+: Text.join [separator] parts := by
  induction before generalizing offset parts with
  | nil =>
    cases parts with
    | nil => simp [endings] at h
    | cons first parts =>
      simp only [endings, List.nil_append, List.cons.injEq, Prod.mk.injEq] at h
      obtain ⟨⟨rfl, rfl⟩, -⟩ := h
      refine ⟨by simp [Text.join], ?_⟩
      cases parts with
      | nil => simp
      | cons next parts => exact ⟨_, by rw [Text.join_cons_cons]; simp [Text.join]; rfl⟩
  | cons entry before ih =>
    cases parts with
    | nil => simp [endings] at h
    | cons first parts =>
      simp only [endings, List.cons_append, List.cons.injEq] at h
      obtain ⟨rfl, h⟩ := h
      obtain ⟨hstop, more, hmore⟩ := ih h
      obtain ⟨next, others, rfl⟩ : ∃ next others, parts = next :: others := by
        cases parts with
        | nil => simp [endings] at h
        | cons next others => exact ⟨next, others, rfl⟩
      rw [List.map_cons, List.cons_append, Text.join_cons_concat, Text.join_cons_cons]
      refine ⟨?_, more, ?_⟩
      · simp only [List.length_append, List.length_singleton]
        omega
      · rw [← hmore]
        simp

lemma splitOn_take {stop : ℕ} {part : Text} {before after : List (Text × ℕ)}
    (h : endings 0 (p.splitOn separator) = before ++ (part, stop) :: after) :
    (p.take stop).splitOn separator = before.map (·.1) ++ [part] := by
  obtain ⟨hstop, more, hmore⟩ := eq_of_endings h
  have hjoin : Text.join [separator] (p.splitOn separator) = p := List.intercalate_splitOn separator
  have htake : p.take stop = Text.join [separator] (before.map (·.1) ++ [part]) := by
    rw [← hjoin, ← hmore, hstop, Nat.zero_add, List.take_left]
  have hparts : p.splitOn separator = before.map (·.1) ++ part :: after.map (·.1) := by
    rw [← map_fst_endings 0 (p.splitOn separator), h, List.map_append, List.map_cons]
  rw [htake]
  refine List.splitOn_intercalate separator (fun l hl => ?_) (by simp)
  refine Text.not_mem_of_mem_splitOn (s := p) ?_
  rw [hparts]
  simp only [List.mem_append, List.mem_cons] at hl ⊢
  tauto

lemma components_anchor (p : Path) : p.anchor.components = p.lead := by
  unfold anchor
  by_cases habsolute : p.isAbsolute
  · obtain ⟨rest, rfl⟩ : ∃ rest, p = separator :: rest :=
      ⟨p.tail, List.eq_cons_of_mem_head? (by simpa [isAbsolute] using habsolute)⟩
    simp only [lead, habsolute, Bool.true_or, if_true]
    rfl
  by_cases hdot : (p.splitOn separator).head? = some ['.']
  · have hfirst : p.take 1 = ['.'] := by
      cases p with
      | nil => simp at hdot
      | cons c rest =>
        rw [List.splitOn_cons_eq_if_modifyHead] at hdot
        obtain ⟨part, parts, hrest⟩ :=
          List.exists_cons_of_ne_nil (List.splitOn_ne_nil separator rest)
        split at hdot
        · simp at hdot
        · simp [hrest] at hdot
          simp [hdot.1]
    simp only [lead, habsolute, hdot, hfirst]
    rfl
  · simp only [lead, habsolute, hdot]
    rfl

lemma components_take {stop : ℕ} {part : Text} {before after : List (Text × ℕ)}
    (h : p.names = before ++ (part, stop) :: after) :
    components (p.take stop) = p.lead ++ (before.map (·.1) ++ [part]).map .name := by
  obtain ⟨some, rest, hendings, rfl, hrest⟩ := List.filter_eq_append_iff.1 h
  obtain ⟨idle, others, rfl, hidle, hpart, -⟩ := List.filter_eq_cons_iff.1 hrest
  rw [← List.append_assoc] at hendings
  have htake := splitOn_take hendings
  have hparts : p.splitOn separator = (some ++ idle).map (·.1) ++ part :: others.map (·.1) := by
    rw [← map_fst_endings 0 (p.splitOn separator), hendings, List.map_append, List.map_cons]
  have hnames : nameParts (p.take stop) = (some.filter (!isIdle ·.1)).map (·.1) ++ [part] := by
    have hnil : idle.filter (!isIdle ·.1) = [] := by simpa using hidle
    have hkeep : [part].filter (!isIdle ·) = [part] := by simpa using hpart
    rw [nameParts, htake, List.filter_append, List.map_append, List.filter_append, hkeep,
      List.filter_map, List.filter_map]
    change _ ++ (idle.filter (!isIdle ·.1)).map _ ++ _ = _
    rw [hnil, List.map_nil, List.append_nil]
    rfl
  have hlead : lead (p.take stop) = p.lead := by
    refine lead_congr ?_ ?_
    · have hne : stop ≠ 0 := by
        rintro rfl
        have hlast : part ∈ ([] : Path).splitOn separator := by
          rw [← List.take_zero (l := p), htake]
          simp
        obtain rfl : part = [] := by simpa using hlast
        simp [isIdle] at hpart
      rw [isAbsolute, isAbsolute, List.head?_take, if_neg hne]
    · rw [htake, hparts]
      cases (some ++ idle).map (·.1) <;> rfl
  rw [components_eq, hlead, hnames]

lemma components_parent (p : Path) : (p.parent?.getD []).components = p.components.dropLast := by
  have hnames := map_fst_names p
  rw [components_eq p]
  unfold parent?
  rcases hreverse : p.names.reverse with _ | ⟨last, _ | ⟨⟨part, stop⟩, others⟩⟩
  · -- no name: nothing is left
    have hnil : p.nameParts = [] := by
      rw [← hnames, List.reverse_eq_nil_iff.1 hreverse, List.map_nil]
    have hgetD : (if p.anchor = ['.'] then some [] else none : Option Path).getD [] = [] := by
      split <;> rfl
    rw [hgetD, hnil]
    unfold lead
    split
    · rfl
    · split <;> rfl
  · have hone : p.nameParts = [last.1] := by
      rw [← hnames, ← List.reverse_reverse p.names, hreverse]
      rfl
    rw [Option.getD_some, components_anchor, hone]
    simp
  · have hsplit : p.names = others.reverse ++ (part, stop) :: [last] := by
      rw [← List.reverse_reverse p.names, hreverse]
      simp
    rw [Option.getD_some, components_take hsplit, ← hnames, hsplit]
    simp

lemma same_parent (h : p.same q) : (p.parent?.getD []).same (q.parent?.getD []) := by
  simp only [same, decide_eq_true_eq] at h ⊢
  rw [components_parent, components_parent, h]

/-! ### Where a path leads -/

/-- A path that does not fail by its spelling: it is short enough, and no slash or dot stands
behind its last name. -/
structure Plain (p : Path) : Prop where
  short : Text.byteLength p ≤ FileTree.pathLimit
  named : ∀ part, (p.splitOn separator).getLast? = some part → isIdle part = false

end Path

namespace FileTree

variable {t : FileTree} {p q : Path} {place : Place} {target : Place} {part : Text}

lemma checkPath_eq_ok : checkPath p = .ok () ↔
    '\x00' ∉ p ∧ p ≠ [] ∧ p.isAbsolute = false ∧ Text.byteLength p ≤ pathLimit := by
  unfold checkPath
  split
  · simp_all
  · split
    · rename_i h
      have hlost : p = [] ∨ p.isAbsolute = true := by simpa using h
      rcases hlost with hlost | hlost <;> simp [hlost]
    · split <;> simp_all

lemma resolve_eq_ok : t.resolve p = .ok target ↔
    checkPath p = .ok () ∧ t.walk (.inside []) (p.splitOn Path.separator) = .ok target := by
  rw [resolve, bind_eq_ok]
  constructor
  · rintro ⟨⟨⟩, hcheck, hwalk⟩
    exact ⟨hcheck, hwalk⟩
  · rintro ⟨hcheck, hwalk⟩
    exact ⟨(), hcheck, hwalk⟩

lemma walk_cons {parts : List Text} : t.walk place (part :: parts) = .ok target ↔
    ∃ next, t.enter place part = .ok next ∧ t.walk next parts = .ok target := by
  rw [walk, List.foldlM_cons, bind_eq_ok]
  rfl

lemma eq_of_enter_idle {next : Place} (hidle : Path.isIdle part)
    (h : t.enter place part = .ok next) : next = place := by
  cases place with
  | above => simpa [enter, hidle, eq_comm] using h
  | inside names =>
    have hdirectory := enter_inside h
    simpa [enter, hdirectory, hidle, eq_comm] using h

lemma enter_idle {next : Place} {other : Text} (hidle : Path.isIdle part)
    (h : t.enter place other = .ok next) : t.enter place part = .ok place := by
  cases place with
  | above => simp [enter, hidle]
  | inside names => simp [enter, enter_inside h, hidle]

lemma walk_filter {parts : List Text} (h : t.walk place parts = .ok target) :
    t.walk place (parts.filter (!Path.isIdle ·)) = .ok target := by
  induction parts generalizing place with
  | nil => exact h
  | cons part parts ih =>
    obtain ⟨next, henter, hwalk⟩ := walk_cons.1 h
    cases hidle : Path.isIdle part with
    | true =>
      obtain rfl := eq_of_enter_idle hidle henter
      rw [List.filter_cons_of_neg (by simp [hidle])]
      exact ih hwalk
    | false =>
      rw [List.filter_cons_of_pos (by simp [hidle])]
      exact walk_cons.2 ⟨next, henter, ih hwalk⟩

lemma walk_of_filter {parts : List Text}
    (hlast : ∀ part, parts.getLast? = some part → Path.isIdle part = false)
    (h : t.walk place (parts.filter (!Path.isIdle ·)) = .ok target) :
    t.walk place parts = .ok target := by
  induction parts generalizing place with
  | nil => exact h
  | cons part parts ih =>
    have htail : ∀ last, parts.getLast? = some last → Path.isIdle last = false := by
      intro last hparts
      refine hlast last ?_
      rw [List.getLast?_cons, hparts, Option.getD_some]
    cases hidle : Path.isIdle part with
    | false =>
      rw [List.filter_cons_of_pos (by simp [hidle])] at h
      obtain ⟨next, henter, hwalk⟩ := walk_cons.1 h
      exact walk_cons.2 ⟨next, henter, ih htail hwalk⟩
    | true =>
      rw [List.filter_cons_of_neg (by simp [hidle])] at h
      -- a name comes after the idle part, and it is entered from the same place
      obtain ⟨last, hparts⟩ : ∃ last, parts.getLast? = some last := by
        cases hl : parts.getLast? with
        | some last => exact ⟨last, rfl⟩
        | none =>
          obtain rfl := List.getLast?_eq_none_iff.1 hl
          simp [hlast part rfl] at hidle
      have hmem : last ∈ parts.filter (!Path.isIdle ·) :=
        List.mem_filter.2 ⟨List.mem_of_getLast? hparts, by simp [htail last hparts]⟩
      obtain ⟨first, others, hfilter⟩ := List.exists_cons_of_ne_nil (List.ne_nil_of_mem hmem)
      rw [hfilter] at h
      obtain ⟨next, henter, hwalk⟩ := walk_cons.1 h
      refine walk_cons.2 ⟨place, enter_idle hidle henter, ih htail ?_⟩
      rw [hfilter]
      exact walk_cons.2 ⟨next, henter, hwalk⟩

/-- **Two spellings of a path lead to one place**, if they lead anywhere. -/
lemma resolve_unique {other : Place} (hsame : p.same q) (hp : t.resolve p = .ok target)
    (hq : t.resolve q = .ok other) : target = other := by
  have hnames := (Path.same_iff.1 hsame).2
  have hwalkp := walk_filter (resolve_eq_ok.1 hp).2
  have hwalkq := walk_filter (resolve_eq_ok.1 hq).2
  rw [show (p.splitOn Path.separator).filter (!Path.isIdle ·) = q.nameParts from hnames] at hwalkp
  exact Except.ok.inj (hwalkp.symm.trans hwalkq)

lemma resolve_of_same (hsame : p.same q) (hplain : p.Plain) (hq : t.resolve q = .ok target) :
    t.resolve p = .ok target := by
  obtain ⟨hlead, hnames⟩ := Path.same_iff.1 hsame
  obtain ⟨hcheck, hwalk⟩ := resolve_eq_ok.1 hq
  obtain ⟨hnull, hne, habsolute, -⟩ := checkPath_eq_ok.1 hcheck
  have hcomponents : p.components = q.components := by simpa [Path.same] using hsame
  refine resolve_eq_ok.2 ⟨checkPath_eq_ok.2 ⟨?_, ?_, ?_, hplain.short⟩, ?_⟩
  · rwa [Path.mem_iff_mem_nameParts (by decide) (by decide), hnames,
      ← Path.mem_iff_mem_nameParts (by decide) (by decide)]
  · rwa [Ne, ← Path.components_eq_nil_iff, hcomponents, Path.components_eq_nil_iff]
  · rw [Path.isAbsolute_eq_of_lead hlead, habsolute]
  · refine walk_of_filter hplain.named ?_
    rw [show (p.splitOn Path.separator).filter (!Path.isIdle ·) = q.nameParts from hnames]
    exact walk_filter hwalk

/-! ### Files -/

lemma exists_of_isFile (h : t.isFile p) :
    ∃ place, t.resolve p = .ok place ∧ ∃ bytes, t.readBytes p = .ok bytes := by
  unfold isFile at h
  split at h
  · rename_i content hfind
    obtain ⟨place, hresolve, -⟩ := bind_eq_ok.1 hfind
    exact ⟨place, hresolve, content, by simp [readBytes, hfind, bind, Except.bind]⟩
  · rename_i behaviour hfind
    obtain ⟨place, hresolve, -⟩ := bind_eq_ok.1 hfind
    exact ⟨place, hresolve, .empty, by simp [readBytes, hfind, bind, Except.bind]⟩
  · simp at h

lemma find_congr (h : t.resolve p = t.resolve q) : t.find p = t.find q := by
  rw [find, find, h]

lemma resolve_eq_of_isFile (hsame : p.same q) (hp : t.isFile p) (hq : t.isFile q) :
    t.resolve p = t.resolve q := by
  obtain ⟨place, hplace, -⟩ := exists_of_isFile hp
  obtain ⟨other, hother, -⟩ := exists_of_isFile hq
  rw [hplace, hother, resolve_unique hsame hplace hother]

lemma isFile_of_same (hsame : p.same q) (hplain : p.Plain) (hq : t.isFile q) : t.isFile p := by
  obtain ⟨place, hplace, -⟩ := exists_of_isFile hq
  have hresolve : t.resolve p = t.resolve q :=
    (resolve_of_same hsame hplain hplace).trans hplace.symm
  rwa [isFile, find_congr hresolve]

end FileTree

end LatexReview

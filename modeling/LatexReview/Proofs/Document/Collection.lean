import Mathlib
import LatexReview.Document.Collection
import LatexReview.Proofs.Store.Spelling

/-!
The documents of a run.

The visit comes to its end: there are fewer paths to files than visits are allowed. It gives
the documents that the inputs lead to and no others, the inputs first, and no path twice. A
file that is reached by one path is then checked once; by two paths that differ in more than
slashes and dots it is checked twice.
-/

namespace LatexReview.Document

variable {files : FileTree} {inputs seen queue paths : List Path} {docs others : List Document}
  {d : Document} {p q : Path} {bound : ℕ}

/-! ### What a document includes -/

/-- The paths that the including commands of a document name, outside comments. -/
def named (d : Document) : List Path :=
  (d.source.lines.flatMap inclusions).map (includedPath (d.path.parent?.getD []))

/-- The paths that the document at a path names. -/
def namedAt (files : FileTree) (p : Path) : List Path :=
  match load files p with
  | .ok d => d.named
  | .error _ => []

/-- The document at a path names another file. -/
def Includes (files : FileTree) (p q : Path) : Prop := q ∈ namedAt files p ∧ files.isFile q

/-- The inputs lead to a path, along what the documents include. -/
def Reaches (files : FileTree) (inputs : List Path) (q : Path) : Prop :=
  ∃ p ∈ inputs, Relation.ReflTransGen (Includes files) p q

lemma exists_foldl_addPath (paths queue : List Path) :
    ∃ more, queue.foldl addPath paths = paths ++ more := by
  induction queue generalizing paths with
  | nil => exact ⟨[], by simp⟩
  | cons p queue ih =>
    obtain ⟨more, hmore⟩ := ih (addPath paths p)
    rw [List.foldl_cons, hmore]
    unfold addPath
    split
    · exact ⟨more, rfl⟩
    · exact ⟨p :: more, by simp⟩

lemma mem_foldl_addPath (h : q ∈ queue.foldl addPath paths) : q ∈ paths ∨ q ∈ queue := by
  induction queue generalizing paths with
  | nil => exact .inl h
  | cons p queue ih =>
    rcases ih h with h | h
    · unfold addPath at h
      split at h
      · exact .inl h
      · rcases List.mem_append.1 h with h | h
        · exact .inl h
        · exact .inr (by simp [List.mem_singleton.1 h])
    · exact .inr (List.mem_cons_of_mem p h)

lemma exists_same_foldl_addPath (paths : List Path) (h : q ∈ queue) :
    ∃ r ∈ queue.foldl addPath paths, q.same r := by
  induction queue generalizing paths with
  | nil => simp at h
  | cons p queue ih =>
    rcases List.mem_cons.1 h with rfl | h
    · obtain ⟨r, hr, hsame⟩ : ∃ r ∈ addPath paths q, q.same r := by
        unfold addPath
        split
        · rename_i hany
          exact List.any_eq_true.1 hany
        · exact ⟨q, by simp, Path.same_refl q⟩
      obtain ⟨more, hmore⟩ := exists_foldl_addPath (addPath paths q) queue
      exact ⟨r, by simp [hmore, hr], hsame⟩
    · exact ih (addPath paths p) h

lemma load_eq_ok : load files p = .ok d ↔
    ∃ bytes, files.readBytes p = .ok bytes ∧ d = ofSource p (Text.ofBytesLossy bytes) := by
  unfold load
  cases files.readBytes p with
  | error cause => simp
  | ok bytes => simp [eq_comm]

lemma path_of_load (h : load files p = .ok d) : d.path = p := by
  obtain ⟨bytes, -, rfl⟩ := load_eq_ok.1 h
  rfl

lemma exists_load (h : files.isFile p) : ∃ d, load files p = .ok d := by
  obtain ⟨-, -, bytes, hbytes⟩ := FileTree.exists_of_isFile h
  exact ⟨_, load_eq_ok.2 ⟨bytes, hbytes, rfl⟩⟩

lemma namedAt_of_load (h : load files p = .ok d) : namedAt files p = d.named := by
  rw [namedAt, h]

lemma includedPaths_of_load (h : load files p = .ok d) :
    d.includedPaths = (namedAt files p).foldl addPath [] := by
  rw [namedAt_of_load h]
  rfl

lemma mem_namedAt_of_mem_includedPaths (h : load files p = .ok d) (hq : q ∈ d.includedPaths) :
    q ∈ namedAt files p := by
  rw [includedPaths_of_load h] at hq
  exact (mem_foldl_addPath hq).resolve_left (by simp)

/-! ### The visit -/

/-- How a queue is worked off: a path seen before is passed over, and what a new one includes
goes to the end of the queue. -/
inductive Visits (files : FileTree) : List Path → List Path → List Document → Prop
  | done (seen : List Path) : Visits files seen [] []
  | again {p : Path} {seen queue : List Path} {docs : List Document}
    (hseen : seen.any p.same) (rest : Visits files seen queue docs) :
    Visits files seen (p :: queue) docs
  | new {p : Path} {seen queue : List Path} {d : Document} {docs : List Document}
    (hnew : seen.any p.same = false) (hload : load files p = .ok d)
    (rest : Visits files (p :: seen) (queue ++ d.includedPaths.filter files.isFile) docs) :
    Visits files seen (p :: queue) (d :: docs)

lemma apart_cons (hseen : seen.Pairwise fun p q => ¬ p.same q) (hnew : seen.any p.same = false) :
    (p :: seen).Pairwise fun p q => ¬ p.same q := by
  refine List.pairwise_cons.2 ⟨fun q hq hsame => ?_, hseen⟩
  have hany : seen.any p.same := List.any_eq_true.2 ⟨q, hq, hsame⟩
  simp [hnew] at hany

/-- The paths seen so far are different paths to files, and with the visits to come they are
as many as paths can be. -/
structure Room (files : FileTree) (bound : ℕ) (seen : List Path) : Prop where
  file : ∀ p ∈ seen, files.isFile p
  apart : seen.Pairwise fun p q => ¬ p.same q
  bound : pathCount ≤ seen.length + bound

lemma Room.pos (h : Room files bound seen) : 0 < bound := by
  have hnodup : seen.Nodup := by
    refine h.apart.imp fun {p q} hne => ?_
    rintro rfl
    exact hne (Path.same_refl p)
  have hshort : ∀ p ∈ seen, Text.byteLength p ≤ FileTree.pathLimit := by
    intro p hp
    obtain ⟨place, hresolve, -⟩ := FileTree.exists_of_isFile (h.file p hp)
    exact (FileTree.checkPath_eq_ok.1 (FileTree.resolve_eq_ok.1 hresolve).1).2.2.2
  have hcount : ∀ n, (∀ p ∈ seen, Text.byteLength p ≤ n) → seen.length < Nat.pow 256 (n + 1) :=
    fun n hn => Text.length_lt_of_nodup hnodup hn
  have hlt : seen.length < pathCount := by
    delta pathCount
    exact hcount FileTree.pathLimit hshort
  have hbound := h.bound
  omega

lemma Room.cons (h : Room files (bound + 1) seen) (hp : files.isFile p)
    (hnew : seen.any p.same = false) : Room files bound (p :: seen) where
  file := List.forall_mem_cons.2 ⟨hp, h.file⟩
  apart := apart_cons h.apart hnew
  bound := by
    have hbound := h.bound
    rw [List.length_cons]
    omega

lemma room_pathCount : Room files pathCount [] := ⟨by simp, .nil, by simp⟩

/-- **A visit ends**, with all the queue worked off. -/
lemma exists_visit (hroom : Room files bound seen) (hqueue : ∀ p ∈ queue, files.isFile p) :
    ∃ docs, visit files bound seen queue = .ok docs ∧ Visits files seen queue docs := by
  induction bound, seen, queue using visit.induct files with
  | case1 bound seen => exact ⟨[], by rw [visit], .done seen⟩
  | case2 seen p queue => exact absurd hroom.pos (Nat.lt_irrefl 0)
  | case3 seen bound p queue hseen ih =>
    obtain ⟨docs, hvisit, hvisits⟩ := ih hroom fun q hq => hqueue q (List.mem_cons_of_mem p hq)
    exact ⟨docs, by rw [visit, if_pos hseen, hvisit], .again hseen hvisits⟩
  | case4 seen bound p queue hnew ih =>
    have hp := hqueue p List.mem_cons_self
    have hfresh : seen.any p.same = false := by simpa using hnew
    obtain ⟨d, hload⟩ := exists_load hp
    have hrest : ∀ q ∈ queue ++ d.includedPaths.filter files.isFile, files.isFile q := by
      intro q hq
      rcases List.mem_append.1 hq with hq | hq
      · exact hqueue q (List.mem_cons_of_mem p hq)
      · exact (List.mem_filter.1 hq).2
    obtain ⟨docs, hvisit, hvisits⟩ := ih d (hroom.cons hp hfresh) hrest
    refine ⟨d :: docs, ?_, .new hfresh hload hvisits⟩
    rw [visit, if_neg hnew, hload]
    simp [hvisit, bind, Except.bind, pure, Except.pure]

lemma Visits.unique (h : Visits files seen queue docs) (h' : Visits files seen queue others) :
    docs = others := by
  induction h generalizing others with
  | done seen => cases h'; rfl
  | again hseen rest ih =>
    cases h' with
    | again _ rest' => exact ih rest'
    | new hnew => simp [hnew] at hseen
  | new hnew hload rest ih =>
    cases h' with
    | again hseen => simp [hnew] at hseen
    | new _ hload' rest' =>
      obtain rfl := Except.ok.inj (hload.symm.trans hload')
      rw [ih rest']

/-! ### What a visit gives -/

lemma Visits.loaded (h : Visits files seen queue docs) : ∀ d ∈ docs, load files d.path = .ok d := by
  induction h with
  | done seen => simp
  | again hseen rest ih => exact ih
  | new hnew hload rest ih =>
    refine List.forall_mem_cons.2 ⟨?_, ih⟩
    rwa [path_of_load hload]

lemma Visits.exists_eq_append (h : Visits files seen queue docs) :
    ∃ more, seen.reverse ++ docs.map (·.path) = queue.foldl addPath seen.reverse ++ more := by
  induction h with
  | done seen => exact ⟨[], by simp⟩
  | @again p seen queue docs hseen rest ih =>
    have hadd : addPath seen.reverse p = seen.reverse := by
      rw [addPath, if_pos (by simpa using hseen)]
    rwa [List.foldl_cons, hadd]
  | @new p seen queue d docs hnew hload rest ih =>
    have hadd : addPath seen.reverse p = (p :: seen).reverse := by
      rw [addPath, if_neg (by simpa using hnew), List.reverse_cons]
    obtain ⟨more, hmore⟩ := ih
    obtain ⟨included, hincluded⟩ := exists_foldl_addPath
      (queue.foldl addPath (p :: seen).reverse) (d.includedPaths.filter files.isFile)
    rw [List.foldl_append, hincluded, List.append_assoc] at hmore
    refine ⟨included ++ more, ?_⟩
    rw [List.foldl_cons, hadd, ← hmore, List.map_cons, path_of_load hload]
    simp

lemma Visits.exists_same (h : Visits files seen queue docs) (hp : p ∈ queue) :
    ∃ q ∈ seen.reverse ++ docs.map (·.path), p.same q := by
  obtain ⟨more, hmore⟩ := h.exists_eq_append
  obtain ⟨q, hq, hsame⟩ := exists_same_foldl_addPath seen.reverse hp
  exact ⟨q, by rw [hmore]; exact List.mem_append_left more hq, hsame⟩

lemma Visits.closed (h : Visits files seen queue docs) : ∀ d ∈ docs, ∀ p ∈ d.includedPaths,
    files.isFile p → ∃ q ∈ seen.reverse ++ docs.map (·.path), p.same q := by
  induction h with
  | done seen => simp
  | again hseen rest ih => exact ih
  | @new p seen queue d docs hnew hload rest ih =>
    have hpaths : (p :: seen).reverse ++ docs.map (·.path) =
        seen.reverse ++ (d :: docs).map (·.path) := by
      rw [List.map_cons, path_of_load hload]
      simp
    rw [hpaths] at ih
    refine List.forall_mem_cons.2 ⟨fun q hq hfile => ?_, ih⟩
    rw [← hpaths]
    exact rest.exists_same (List.mem_append_right queue (List.mem_filter.2 ⟨hq, hfile⟩))

lemma Visits.apart (h : Visits files seen queue docs)
    (hseen : seen.Pairwise fun p q => ¬ p.same q) :
    (seen.reverse ++ docs.map (·.path)).Pairwise fun p q => ¬ p.same q := by
  induction h with
  | done seen =>
    rw [List.map_nil, List.append_nil, List.pairwise_reverse]
    exact hseen.imp fun hne hsame => hne (Path.same_comm.1 hsame)
  | again _ rest ih => exact ih hseen
  | @new p seen queue d docs hnew hload rest ih =>
    rw [List.map_cons, path_of_load hload]
    simpa using ih (apart_cons hseen hnew)

lemma Visits.forall_path {P : Path → Prop} (h : Visits files seen queue docs)
    (hqueue : ∀ p ∈ queue, P p) (hstep : ∀ p q, P p → Includes files p q → P q) :
    ∀ d ∈ docs, P d.path := by
  induction h with
  | done seen => simp
  | again hseen rest ih => exact ih (List.forall_mem_cons.1 hqueue).2
  | @new p seen queue d docs hnew hload rest ih =>
    obtain ⟨hp, hrest⟩ := List.forall_mem_cons.1 hqueue
    refine List.forall_mem_cons.2 ⟨by rwa [path_of_load hload], ih fun q hq => ?_⟩
    rcases List.mem_append.1 hq with hq | hq
    · exact hrest q hq
    · obtain ⟨hincluded, hfile⟩ := List.mem_filter.1 hq
      exact hstep p q hp ⟨mem_namedAt_of_mem_includedPaths hload hincluded, hfile⟩

/-! ### The documents of the inputs -/

lemma Visits.collect_eq (h : Visits files [] inputs docs) (hinputs : ∀ p ∈ inputs, files.isFile p) :
    collect files inputs = .ok docs := by
  have hfind : inputs.find? (fun path => !files.isFile path) = none := by
    simpa using hinputs
  obtain ⟨others, hvisit, hvisits⟩ := exists_visit room_pathCount hinputs
  rw [collect, hfind, h.unique hvisits, hvisit]

/-- Documents are those that the inputs lead to. -/
structure Collected (files : FileTree) (inputs : List Path) (docs : List Document) : Prop where
  loaded : ∀ d ∈ docs, load files d.path = .ok d
  /-- The inputs come first, in their order. -/
  first : ∃ more, docs.map (·.path) = inputs.foldl addPath [] ++ more
  reached : ∀ d ∈ docs, Reaches files inputs d.path
  /-- No path comes twice, however it is spelled. -/
  apart : docs.Pairwise fun d e => ¬ d.path.same e.path
  /-- Each path that a document includes is there, if it leads to a file. -/
  closed : ∀ d ∈ docs, ∀ p ∈ d.includedPaths, files.isFile p → ∃ e ∈ docs, p.same e.path

lemma exists_collected (h : ∀ p ∈ inputs, files.isFile p) :
    ∃ docs, collect files inputs = .ok docs ∧ Collected files inputs docs := by
  obtain ⟨docs, hvisit, hvisits⟩ := exists_visit room_pathCount h
  refine ⟨docs, hvisits.collect_eq h, ?_⟩
  exact
    { loaded := hvisits.loaded
      first := by simpa using hvisits.exists_eq_append
      reached := by
        refine hvisits.forall_path (fun p hp => ⟨p, hp, .refl⟩) fun p q hp hstep => ?_
        obtain ⟨input, hinput, hlead⟩ := hp
        exact ⟨input, hinput, hlead.tail hstep⟩
      apart := by simpa [List.pairwise_map] using hvisits.apart .nil
      closed := by
        intro d hd p hp hfile
        simpa using hvisits.closed d hd p hp hfile }

/-! ### Files with one path -/

/-- The paths that the inputs lead to do not hide files from each other: there is one for each
file, and what is named can be followed. -/
structure SpelledOnce (files : FileTree) (inputs : List Path) : Prop where
  one : ∀ p q, Reaches files inputs p → Reaches files inputs q →
    files.resolve p = files.resolve q → p.same q
  plain : ∀ p, Reaches files inputs p → ∀ q ∈ namedAt files p, q.Plain

lemma Reaches.isFile (hinputs : ∀ p ∈ inputs, files.isFile p) (h : Reaches files inputs q) :
    files.isFile q := by
  obtain ⟨p, hp, hlead⟩ := h
  cases hlead with
  | refl => exact hinputs q hp
  | tail _ hstep => exact hstep.2

lemma same_includedPath {directory other : Path} (h : directory.same other) (argument : Text) :
    (includedPath directory argument).same (includedPath other argument) :=
  Path.same_join h _

lemma exists_namedAt (hsame : p.same q) (hp : files.isFile p) (hq : files.isFile q) {r : Path}
    (hr : r ∈ namedAt files p) : ∃ r' ∈ namedAt files q, r.same r' := by
  have hresolve := FileTree.resolve_eq_of_isFile hsame hp hq
  obtain ⟨d, hd⟩ := exists_load hp
  obtain ⟨e, he⟩ := exists_load hq
  rw [namedAt_of_load hd] at hr
  rw [namedAt_of_load he]
  obtain ⟨bytes, hbytes, rfl⟩ := load_eq_ok.1 hd
  obtain ⟨bytes', hbytes', rfl⟩ := load_eq_ok.1 he
  have hread : files.readBytes p = files.readBytes q := by
    rw [FileTree.readBytes, FileTree.readBytes, FileTree.find_congr hresolve]
  obtain rfl : bytes = bytes' := Except.ok.inj (hbytes.symm.trans (hread.trans hbytes'))
  obtain ⟨argument, hargument, rfl⟩ := List.mem_map.1 hr
  exact ⟨_, List.mem_map.2 ⟨argument, hargument, rfl⟩, same_includedPath (Path.same_parent hsame) _⟩

lemma Collected.exists_same (h : Collected files inputs docs)
    (hinputs : ∀ p ∈ inputs, files.isFile p) (hspelled : SpelledOnce files inputs)
    (hq : Reaches files inputs q) : ∃ d ∈ docs, q.same d.path := by
  obtain ⟨input, hinput, hlead⟩ := hq
  induction hlead with
  | refl =>
    obtain ⟨more, hmore⟩ := h.first
    obtain ⟨r, hr, hsame⟩ := exists_same_foldl_addPath [] hinput
    have hmem : r ∈ docs.map (·.path) := by rw [hmore]; exact List.mem_append_left more hr
    obtain ⟨d, hd, rfl⟩ := List.mem_map.1 hmem
    exact ⟨d, hd, hsame⟩
  | @tail p q hlead hstep ih =>
    obtain ⟨d, hd, hsame⟩ := ih
    have hp : Reaches files inputs p := ⟨input, hinput, hlead⟩
    obtain ⟨hnamed, hfile⟩ := hstep
    -- the collected spelling names the file as well
    obtain ⟨q', hq', hsame'⟩ := exists_namedAt hsame (hp.isFile hinputs)
      ((h.reached d hd).isFile hinputs) hnamed
    obtain ⟨r, hr, hsame''⟩ := exists_same_foldl_addPath [] hq'
    rw [← includedPaths_of_load (h.loaded d hd)] at hr
    have hplain := hspelled.plain d.path (h.reached d hd) r
      (mem_namedAt_of_mem_includedPaths (h.loaded d hd) hr)
    have hqr : q.same r := Path.same_trans hsame' hsame''
    have hrfile := FileTree.isFile_of_same (Path.same_comm.1 hqr) hplain hfile
    obtain ⟨e, he, hre⟩ := h.closed d hd r hr hrfile
    exact ⟨e, he, Path.same_trans hqr hre⟩

lemma countP_eq_one {property : Document → Bool} (hd : d ∈ docs) (hproperty : property d)
    (hapart : docs.Pairwise fun d e => ¬ (property d ∧ property e)) : docs.countP property = 1 := by
  obtain ⟨before, after, rfl⟩ := List.append_of_mem hd
  obtain ⟨-, hafter, hbefore⟩ := List.pairwise_append.1 hapart
  have hleft : before.countP property = 0 :=
    List.countP_eq_zero.2 fun e he hpe => hbefore e he d List.mem_cons_self ⟨hpe, hproperty⟩
  have hright : after.countP property = 0 :=
    List.countP_eq_zero.2 fun e he hpe => (List.pairwise_cons.1 hafter).1 e he ⟨hproperty, hpe⟩
  rw [List.countP_append, List.countP_cons_of_pos hproperty, hleft, hright]

/-- The number of documents that stand for the file that a path leads to. -/
def timesChecked (files : FileTree) (docs : List Document) (p : Path) : ℕ :=
  docs.countP fun d => files.resolve d.path = files.resolve p

/-- **The documents of a run.** For inputs that are there, the visit ends, and gives the
documents that the inputs lead to, the inputs first. If each file that they lead to is named
by one path, and by no path that cannot be followed, then each is checked once. -/
theorem collect_each_once (hinputs : ∀ p ∈ inputs, files.isFile p) :
    ∃ docs, collect files inputs = .ok docs ∧ Collected files inputs docs ∧
      (SpelledOnce files inputs → ∀ p, Reaches files inputs p → timesChecked files docs p = 1) := by
  obtain ⟨docs, hcollect, h⟩ := exists_collected hinputs
  refine ⟨docs, hcollect, h, fun hspelled p hp => ?_⟩
  obtain ⟨d, hd, hsame⟩ := h.exists_same hinputs hspelled hp
  have hresolve : files.resolve d.path = files.resolve p :=
    (FileTree.resolve_eq_of_isFile hsame (hp.isFile hinputs)
      ((h.reached d hd).isFile hinputs)).symm
  refine countP_eq_one hd (by simpa using hresolve) ?_
  refine h.apart.imp_of_mem fun {d e} hd he hne ⟨hdp, hep⟩ => ?_
  simp only [decide_eq_true_eq] at hdp hep
  exact hne (hspelled.one d.path e.path (h.reached d hd) (h.reached e he) (hdp.trans hep.symm))

/-- A file and what stands in it. -/
def textFile (name source : String) : List Text × Node :=
  ([name.toList], .file (Text.toBytes source.toList))

/-- Three documents that include each other, and one that only a comment names. -/
def ring : FileTree := ⟨[
  textFile "main.tex" "\\input\x7ba\x7d\\include\x7bb\x7d\n",
  textFile "a.tex" "\\input\x7bb.tex\x7d % \\input\x7bc\x7d\n",
  textFile "b.tex" "\\input \x7bmain\x7d\n",
  textFile "c.tex" "unused\n"]⟩

def ringPaths : List Path := ["main.tex".toList, "a.tex".toList, "b.tex".toList]

lemma namedAt_ring : ∀ p ∈ ringPaths, ∀ q ∈ namedAt ring p, q ∈ ringPaths := by
  decide +kernel

lemma reaches_ring_iff : Reaches ring ["main.tex".toList] p ↔ p ∈ ringPaths := by
  constructor
  · rintro ⟨input, hinput, hlead⟩
    induction hlead with
    | refl =>
      obtain rfl := List.mem_singleton.1 hinput
      exact List.mem_cons_self
    | tail _ hstep ih => exact namedAt_ring _ ih _ hstep.1
  · intro hp
    have hmain : ∀ q ∈ ringPaths.tail, q ∈ namedAt ring "main.tex".toList ∧ ring.isFile q := by
      decide +kernel
    refine ⟨"main.tex".toList, List.mem_singleton_self _, ?_⟩
    rcases List.mem_cons.1 hp with rfl | hp
    · exact .refl
    · exact .single (hmain p hp)

lemma spelledOnce_ring : SpelledOnce ring ["main.tex".toList] where
  one := by
    have hplaces : ∀ p ∈ ringPaths, ∀ q ∈ ringPaths, ring.resolve p = ring.resolve q → p = q := by
      decide +kernel
    intro p q hp hq h
    obtain rfl := hplaces p (reaches_ring_iff.1 hp) q (reaches_ring_iff.1 hq) h
    exact Path.same_refl p
  plain := by
    have hplain : ∀ q ∈ ringPaths, Text.byteLength q ≤ FileTree.pathLimit ∧
        (q.splitOn Path.separator).getLast?.all (!Path.isIdle ·) := by
      decide +kernel
    intro p hp q hq
    obtain ⟨hshort, hlast⟩ := hplain q (namedAt_ring p (reaches_ring_iff.1 hp) q hq)
    refine ⟨hshort, fun part hpart => ?_⟩
    rw [hpart] at hlast
    simpa using hlast

theorem collect_each_once_ring : ∃ docs, collect ring ["main.tex".toList] = .ok docs ∧
    ∀ p ∈ ringPaths, timesChecked ring docs p = 1 := by
  have hinputs : ∀ p ∈ ["main.tex".toList], ring.isFile p := by decide +kernel
  obtain ⟨docs, hcollect, -, honce⟩ := collect_each_once hinputs
  exact ⟨docs, hcollect, fun p hp => honce spelledOnce_ring p (reaches_ring_iff.2 hp)⟩

/-- A document that names one file by two paths. -/
def detour : FileTree := ⟨[
  textFile "main.tex" "\\input\x7bsub/../a\x7d\\input\x7ba\x7d\n",
  (["sub".toList], .directory),
  textFile "a.tex" "x\n"]⟩

/-- One file is checked twice, although the inputs lead to no other one. -/
theorem detour_checked_twice : ∃ docs, collect detour ["main.tex".toList] = .ok docs ∧
    docs.map (·.path) = ["main.tex".toList, "sub/../a.tex".toList, "a.tex".toList] ∧
    Reaches detour ["main.tex".toList] "a.tex".toList ∧
    timesChecked detour docs "a.tex".toList = 2 := by
  have hfiles : ∀ p ∈ ["main.tex".toList, "sub/../a.tex".toList, "a.tex".toList],
      detour.isFile p := by
    decide +kernel
  obtain ⟨main, hmain⟩ := exists_load (hfiles "main.tex".toList (by simp))
  obtain ⟨first, hfirst⟩ := exists_load (hfiles "sub/../a.tex".toList (by simp))
  obtain ⟨second, hsecond⟩ := exists_load (hfiles "a.tex".toList (by simp))
  have hvisits : Visits detour [] ["main.tex".toList] [main, first, second] := by
    have hfromMain : ((namedAt detour "main.tex".toList).foldl addPath []).filter detour.isFile =
        ["sub/../a.tex".toList, "a.tex".toList] := by
      decide +kernel
    have hfromFirst : namedAt detour "sub/../a.tex".toList = [] := by decide +kernel
    have hfromSecond : namedAt detour "a.tex".toList = [] := by decide +kernel
    refine .new rfl hmain ?_
    rw [includedPaths_of_load hmain, hfromMain]
    refine .new (by decide +kernel) hfirst ?_
    rw [includedPaths_of_load hfirst, hfromFirst]
    refine .new (by decide +kernel) hsecond ?_
    rw [includedPaths_of_load hsecond, hfromSecond]
    exact .done _
  have hpaths : [main, first, second].map (·.path) =
      ["main.tex".toList, "sub/../a.tex".toList, "a.tex".toList] := by
    simp [path_of_load hmain, path_of_load hfirst, path_of_load hsecond]
  have hreaches : Reaches detour ["main.tex".toList] "a.tex".toList := by
    refine ⟨"main.tex".toList, List.mem_singleton_self _, .single ⟨?_, hfiles _ (by simp)⟩⟩
    decide +kernel
  have htimes : timesChecked detour [main, first, second] "a.tex".toList = 2 := by
    have hcount : ["main.tex".toList, "sub/../a.tex".toList, "a.tex".toList].countP
        (fun p => detour.resolve p = detour.resolve "a.tex".toList) = 2 := by
      decide +kernel
    rw [← hpaths, List.countP_map] at hcount
    exact hcount
  refine ⟨[main, first, second], hvisits.collect_eq ?_, hpaths, hreaches, htimes⟩
  intro p hp
  exact hfiles p (by simp [List.mem_singleton.1 hp])

end LatexReview.Document

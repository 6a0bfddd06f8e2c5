import ComponentSurvey.Proofs.Escapes
import ComponentSurvey.Proofs.FirstOccurrences
import Mathlib.Data.List.Lex
import Mathlib.Data.List.Sort
import Mathlib.Data.String.Basic

/-!
# The files that are selected

A pattern leads from a directory along its components. The files to survey are those that a pattern
leads to and that no exclusion stands for, and they come in the order of the components of their
ways, which leaves no choice: two files with one way are one file.

* `Wildcard.Fits` — the texts that a wildcard stands for; `Wildcard.accepts_iff`.
* `FileTree.DirectoryAt` — the ways to the directories of a tree; `FileTree.mem_directories_iff`.
* `GlobStep.Leads`, `Glob.Reaches`, `mem_select_iff` — where a pattern leads.
* `Spot.Excluded` — an exclusion stands for a spot; `fits_of_not_isWild_iff` — a plain name stands for
  itself only.
* `pairwise_sorted`, `eq_of_pairwise_shown` — the order of ways leaves no choice.
* `sourceFiles_exact` — the files that are selected, in their order, and what more exclusions leave.
-/

namespace ComponentSurvey

/-! ### Wildcards -/

namespace Wildcard

/-- Pieces stand for a text: a run for any part of it, any other piece for one character. -/
inductive Fits : List Piece → List Char → Prop
  | nil : Fits [] []
  | run {pieces : List Piece} (skipped : List Char) {rest : List Char} :
    Fits pieces rest → Fits (.run :: pieces) (skipped ++ rest)
  | one {piece : Piece} {pieces : List Piece} {c : Char} {rest : List Char} :
    piece ≠ .run → piece.accepts c = true → Fits pieces rest → Fits (piece :: pieces) (c :: rest)

theorem fits_nil_iff {text : List Char} : Fits [] text ↔ text = [] := by
  constructor
  · rintro ⟨⟩
    rfl
  · rintro rfl
    exact .nil

theorem fits_one_iff {piece : Piece} {pieces : List Piece} {c : Char} {rest : List Char}
    (hpiece : piece ≠ .run) :
    Fits (piece :: pieces) (c :: rest) ↔ piece.accepts c = true ∧ Fits pieces rest := by
  constructor
  · intro h
    generalize htext : c :: rest = text at h
    cases h with
    | run => exact absurd rfl hpiece
    | one _ haccepts hrest =>
      cases htext
      exact ⟨haccepts, hrest⟩
  · rintro ⟨haccepts, hrest⟩
    exact .one hpiece haccepts hrest

theorem not_fits_one_nil {piece : Piece} {pieces : List Piece} (hpiece : piece ≠ .run) :
    ¬ Fits (piece :: pieces) [] := by
  intro h
  generalize htext : ([] : List Char) = text at h
  cases h with
  | run => exact hpiece rfl
  | one => cases htext

/-- A run stands for nothing more, or takes the next character. -/
theorem fits_run_cons_iff {pieces : List Piece} {c : Char} {rest : List Char} :
    Fits (.run :: pieces) (c :: rest) ↔ Fits pieces (c :: rest) ∨ Fits (.run :: pieces) rest := by
  constructor
  · intro h
    generalize htext : c :: rest = text at h
    cases h with
    | run skipped hrest =>
      cases skipped with
      | nil =>
        rw [List.nil_append] at htext
        exact .inl (htext ▸ hrest)
      | cons first skipped =>
        cases htext
        exact .inr (.run skipped hrest)
    | one hne => exact absurd rfl hne
  · rintro (hnone | hmore)
    · exact .run [] hnone
    · generalize hpieces : Piece.run :: pieces = all at hmore
      cases hmore with
      | nil => cases hpieces
      | run skipped hrest =>
        cases hpieces
        exact .run (c :: skipped) hrest
      | one hne =>
        cases hpieces
        exact absurd rfl hne

theorem fits_run_nil_iff {pieces : List Piece} : Fits (.run :: pieces) [] ↔ Fits pieces [] := by
  constructor
  · intro h
    generalize htext : ([] : List Char) = text at h
    cases h with
    | run skipped hrest =>
      obtain ⟨rfl, rfl⟩ := List.append_eq_nil_iff.1 htext.symm
      exact hrest
    | one hne => exact absurd rfl hne
  · exact .run []

theorem fits_eq_true_iff (pieces : List Piece) (text : List Char) :
    fits pieces text = true ↔ Fits pieces text := by
  fun_induction fits pieces text with
  | case1 text => rw [fits_nil_iff, List.isEmpty_iff]
  | case2 pieces ih => rw [ih, fits_run_nil_iff]
  | case3 pieces c rest ihnone ihmore => rw [Bool.or_eq_true, ihnone, ihmore, fits_run_cons_iff]
  | case4 piece pieces hpiece => exact iff_of_false Bool.false_ne_true (not_fits_one_nil hpiece)
  | case5 piece pieces c rest hpiece ih => rw [Bool.and_eq_true, ih, fits_one_iff hpiece]

theorem accepts_iff {pieces : List Piece} {text : List Char} :
    accepts pieces text = true ↔ Fits pieces text := by
  rw [accepts_eq_fits, fits_eq_true_iff]

theorem covers_iff {pattern text : String} :
    covers pattern text = true ↔ Fits (ofString pattern) text.toList := accepts_iff

/-! ### Plain names -/

/-- Characters without a meaning of their own are pieces that stand for themselves. -/
theorem piecesFrom_plain {chars : List Char} (h : ∀ c ∈ chars, c ≠ '*' ∧ c ≠ '?' ∧ c ≠ '[') :
    piecesFrom 0 chars = chars.map .char := by
  induction chars with
  | nil => rfl
  | cons c rest ih =>
    obtain ⟨⟨hrun, hany, hset⟩, hrest⟩ := List.forall_mem_cons.1 h
    rw [piecesFrom, ih hrest, List.map_cons]
    · exact hrun
    · exact hany
    · exact hset

theorem fits_chars_iff {chars text : List Char} : Fits (chars.map .char) text ↔ text = chars := by
  induction chars generalizing text with
  | nil => exact fits_nil_iff
  | cons c chars ih =>
    rw [List.map_cons]
    cases text with
    | nil => exact iff_of_false (not_fits_one_nil (by simp)) (by simp)
    | cons first rest =>
      rw [fits_one_iff (by simp), ih, List.cons.injEq, Piece.accepts, beq_iff_eq]

/-- A name without special characters stands for itself only. -/
theorem fits_of_not_isWild_iff {name text : String} (hname : isWild name = false) :
    Fits (ofString name) text.toList ↔ text = name := by
  have hplain : ∀ c ∈ name.toList, c ≠ '*' ∧ c ≠ '?' ∧ c ≠ '[' := by
    intro c hc
    have hnone := List.any_eq_false.1 hname c hc
    simpa [and_assoc] using hnone
  rw [ofString, piecesFrom_plain hplain, fits_chars_iff, String.toList_inj]

end Wildcard

/-! ### Directories below a directory -/

namespace FileTree

/-- A way leads to a directory of a tree. -/
inductive DirectoryAt : FileTree → Location → Prop
  | here (entries : List (String × FileTree)) : DirectoryAt (.directory entries) []
  | inside {entries : List (String × FileTree)} {name : String} {held : FileTree} {way : Location} :
    (name, held) ∈ entries → DirectoryAt held way → DirectoryAt (.directory entries) (name :: way)

mutual

theorem mem_directories_iff :
    (tree : FileTree) → (way : Location) → (way ∈ tree.directories ↔ tree.DirectoryAt way)
  | .file _, way => by
    rw [directories]
    exact iff_of_false List.not_mem_nil (by rintro ⟨⟩)
  | .directory entries, way => by
    rw [directories, List.mem_cons, mem_directoriesIn_iff entries way]
    constructor
    · rintro (rfl | ⟨name, held, rest, hheld, rfl, hrest⟩)
      · exact .here entries
      · exact .inside hheld hrest
    · rintro (_ | ⟨hheld, hrest⟩)
      · exact .inl rfl
      · exact .inr ⟨_, _, _, hheld, rfl, hrest⟩

theorem mem_directoriesIn_iff :
    (entries : List (String × FileTree)) → (way : Location) → (way ∈ directoriesIn entries ↔
      ∃ name held rest, (name, held) ∈ entries ∧ way = name :: rest ∧ held.DirectoryAt rest)
  | [], way => by simp [directoriesIn]
  | (first, tree) :: others, way => by
    rw [directoriesIn, List.mem_append, List.mem_map, mem_directoriesIn_iff others way]
    constructor
    · rintro (⟨rest, hrest, rfl⟩ | ⟨name, held, rest, hheld, hway⟩)
      · exact ⟨first, tree, rest, .head _, rfl, (mem_directories_iff tree rest).1 hrest⟩
      · exact ⟨name, held, rest, .tail _ hheld, hway⟩
    · rintro ⟨name, held, rest, hheld, rfl, hrest⟩
      rcases List.mem_cons.1 hheld with heq | hheld
      · cases heq
        exact .inl ⟨rest, (mem_directories_iff tree rest).2 hrest, rfl⟩
      · exact .inr ⟨name, held, rest, hheld, rfl, hrest⟩

end

end FileTree

/-! ### Where a pattern leads -/

namespace GlobStep

/-- A component of a pattern leads from a spot to another one: two asterisks to a directory at any
depth, a name to the entry of that name, a wildcard to an entry whose name it stands for. -/
inductive Leads (files : FileTree) (spot : Spot) : GlobStep → Spot → Prop
  | anyDepth {found : FileTree} {way : Location} :
    files.find? spot.place = some found → found.DirectoryAt way →
      Leads files spot .anyDepth (way.foldl Spot.step spot)
  | named (name : String) : Leads files spot (.named name) (spot.step name)
  | matching {wildcard : List Wildcard.Piece} {found : FileTree} {name : String} :
    files.find? spot.place = some found → name ∈ found.entries.map Prod.fst →
      Wildcard.Fits wildcard name.toList → Leads files spot (.matching wildcard) (spot.step name)

theorem mem_candidates_iff {files : FileTree} {spot next : Spot} {step : GlobStep} :
    next ∈ step.candidates files spot ↔ Leads files spot step next := by
  cases step with
  | anyDepth =>
    rw [candidates, List.mem_map]
    constructor
    · rintro ⟨way, hway, rfl⟩
      cases hfound : files.find? spot.place with
      | none => simp [hfound] at hway
      | some found =>
        rw [hfound, Option.elim_some, FileTree.mem_directories_iff] at hway
        exact .anyDepth hfound hway
    · rintro ⟨hfound, hway⟩
      refine ⟨_, ?_, rfl⟩
      rw [hfound, Option.elim_some, FileTree.mem_directories_iff]
      exact hway
  | named name =>
    rw [candidates, List.mem_singleton]
    constructor
    · rintro rfl
      exact .named name
    · rintro ⟨⟩
      rfl
  | matching wildcard =>
    simp only [candidates, List.mem_map, List.mem_filter]
    constructor
    · rintro ⟨name, ⟨hname, hfits⟩, rfl⟩
      cases hfound : files.find? spot.place with
      | none => simp [hfound] at hname
      | some found =>
        rw [hfound, Option.elim_some] at hname
        exact .matching hfound hname (Wildcard.accepts_iff.1 hfits)
    · rintro ⟨⟩
      rename_i found name hfound hname hfits
      refine ⟨name, ⟨?_, Wildcard.accepts_iff.2 hfits⟩, rfl⟩
      rw [hfound, Option.elim_some]
      exact hname

end GlobStep

namespace Glob

variable {files : FileTree} {directoriesOnly : Bool}

/-- Components of a pattern lead from a spot to another one. What the last of them leads to is there,
and if the pattern stands for directories only it is one; what those before lead to are
directories. -/
inductive Reaches (files : FileTree) (directoriesOnly : Bool) : List GlobStep → Spot → Spot → Prop
  | here (spot : Spot) : Reaches files directoriesOnly [] spot spot
  | step {step : GlobStep} {rest : List GlobStep} {spot next final : Spot} :
    step.Leads files spot next → (files.find? next.place).isSome = true →
      (rest ≠ [] ∨ directoriesOnly = true → files.hasDirectory next.place = true) →
      Reaches files directoriesOnly rest next final →
      Reaches files directoriesOnly (step :: rest) spot final

theorem reaches_nil_iff {spot final : Spot} :
    Reaches files directoriesOnly [] spot final ↔ final = spot := by
  constructor
  · rintro ⟨⟩
    rfl
  · rintro rfl
    exact .here final

theorem reaches_cons_iff {step : GlobStep} {rest : List GlobStep} {spot final : Spot} :
    Reaches files directoriesOnly (step :: rest) spot final ↔ ∃ next,
      step.Leads files spot next ∧ (files.find? next.place).isSome = true ∧
        (rest ≠ [] ∨ directoriesOnly = true → files.hasDirectory next.place = true) ∧
        Reaches files directoriesOnly rest next final := by
  constructor
  · rintro (_ | ⟨hleads, hthere, hdirectory, hrest⟩)
    exact ⟨_, hleads, hthere, hdirectory, hrest⟩
  · rintro ⟨next, hleads, hthere, hdirectory, hrest⟩
    exact .step hleads hthere hdirectory hrest

theorem isSome_of_hasDirectory {place : Location} (h : files.hasDirectory place = true) :
    (files.find? place).isSome = true := by
  rw [FileTree.hasDirectory] at h
  cases hfound : files.find? place with
  | none => simp [hfound] at h
  | some found => rfl

theorem mem_selectFrom_iff {steps : List GlobStep} {spots : List Spot} {final : Spot} :
    final ∈ selectFrom files directoriesOnly steps spots ↔
      ∃ spot ∈ spots, Reaches files directoriesOnly steps spot final := by
  induction steps generalizing spots with
  | nil => simp [selectFrom, reaches_nil_iff]
  | cons step rest ih =>
    have hwanted : ∀ next : Spot,
        (if rest.isEmpty && !directoriesOnly then (files.find? next.place).isSome
          else files.hasDirectory next.place) = true ↔
        (files.find? next.place).isSome = true ∧
          (rest ≠ [] ∨ directoriesOnly = true → files.hasDirectory next.place = true) := by
      intro next
      have hthere : files.hasDirectory next.place = true → (files.find? next.place).isSome = true :=
        isSome_of_hasDirectory
      cases rest <;> cases directoriesOnly <;> simp [and_iff_right_of_imp hthere]
    rw [selectFrom, ih]
    simp only [List.mem_eraseDups, List.mem_filter, List.mem_flatMap, hwanted,
      GlobStep.mem_candidates_iff, reaches_cons_iff]
    constructor
    · rintro ⟨next, ⟨⟨spot, hspot, hleads⟩, hthere, hdirectory⟩, hrest⟩
      exact ⟨spot, hspot, next, hleads, hthere, hdirectory, hrest⟩
    · rintro ⟨spot, hspot, next, hleads, hthere, hdirectory, hrest⟩
      exact ⟨next, ⟨⟨spot, hspot, hleads⟩, hthere, hdirectory⟩, hrest⟩

/-- A pattern leads from a directory to a spot. -/
def Selects (files : FileTree) (place : Location) (glob : Glob) (spot : Spot) : Prop :=
  files.hasDirectory place = true ∧
    Reaches files glob.directoriesOnly glob.steps ⟨[], place⟩ spot

theorem mem_select_iff {place : Location} {glob : Glob} {spot : Spot} :
    spot ∈ glob.select files place ↔ glob.Selects files place spot := by
  rw [select, Selects]
  by_cases hdirectory : files.hasDirectory place = true
  · rw [if_pos hdirectory, mem_selectFrom_iff]
    simp [hdirectory]
  · rw [if_neg hdirectory]
    exact iff_of_false List.not_mem_nil fun h => hdirectory h.1

end Glob

/-! ### Ways -/

namespace Spot

variable {files : FileTree} {place : Location}

/-- A spot is where its way leads from a place. -/
def IsFrom (place : Location) (spot : Spot) : Prop :=
  spot.place = spot.shown.foldl Location.step place

theorem IsFrom.step {spot : Spot} (h : spot.IsFrom place) (component : String) :
    (spot.step component).IsFrom place := by
  rw [IsFrom, Spot.step, List.foldl_append, ← h]
  rfl

theorem IsFrom.foldl_step {spot : Spot} (h : spot.IsFrom place) (way : Location) :
    (way.foldl Spot.step spot).IsFrom place := by
  induction way generalizing spot with
  | nil => exact h
  | cons component way ih => exact ih (h.step component)

theorem IsFrom.leads {spot next : Spot} {step : GlobStep} (h : spot.IsFrom place)
    (hleads : step.Leads files spot next) : next.IsFrom place := by
  cases hleads with
  | anyDepth => exact h.foldl_step _
  | named => exact h.step _
  | matching => exact h.step _

theorem IsFrom.reaches {directoriesOnly : Bool} {steps : List GlobStep} {spot final : Spot}
    (h : spot.IsFrom place) (hreaches : Glob.Reaches files directoriesOnly steps spot final) :
    final.IsFrom place := by
  induction hreaches with
  | here => exact h
  | step hleads _ _ _ ih => exact ih (h.leads hleads)

theorem isFrom_of_selects {glob : Glob} {spot : Spot} (h : glob.Selects files place spot) :
    spot.IsFrom place :=
  have hstart : IsFrom place ⟨[], place⟩ := rfl
  hstart.reaches h.2

/-- Two spots with one way from a place are one spot. -/
theorem IsFrom.eq_of_shown_eq {a b : Spot} (ha : a.IsFrom place) (hb : b.IsFrom place)
    (hshown : a.shown = b.shown) : a = b := by
  cases a
  cases b
  subst hshown
  rw [IsFrom] at ha hb
  rw [Spot.mk.injEq]
  exact ⟨rfl, ha.trans hb.symm⟩

/-! ### Exclusions -/

/-- One of the exclusions stands for the whole way to a spot or for one of its components. -/
def Excluded (exclusions : List String) (spot : Spot) : Prop :=
  ∃ pattern ∈ exclusions, Wildcard.Fits (Wildcard.ofString pattern) spot.text.toList ∨
    ∃ component ∈ spot.shown, Wildcard.Fits (Wildcard.ofString pattern) component.toList

theorem isExcluded_iff {exclusions : List String} {spot : Spot} :
    spot.isExcluded exclusions = true ↔ spot.Excluded exclusions := by
  simp only [isExcluded, ComponentSurvey.isExcluded, Excluded, List.any_eq_true, Bool.or_eq_true,
    Wildcard.covers_iff]

instance (exclusions : List String) (spot : Spot) : Decidable (spot.Excluded exclusions) :=
  decidable_of_iff _ isExcluded_iff

theorem excluded_append_iff {exclusions more : List String} {spot : Spot} :
    spot.Excluded (exclusions ++ more) ↔ spot.Excluded exclusions ∨ spot.Excluded more := by
  simp only [Excluded, List.mem_append, or_and_right, exists_or]

/-- A plain name excludes every way that it stands on, at any depth. -/
theorem excluded_of_mem_shown {exclusions : List String} {name : String} {spot : Spot}
    (hname : name ∈ exclusions) (hplain : isWild name = false) (hshown : name ∈ spot.shown) :
    spot.Excluded exclusions :=
  ⟨name, hname, .inr ⟨name, hshown, (Wildcard.fits_of_not_isWild_iff hplain).2 rfl⟩⟩

/-! ### The order of ways -/

theorem mem_sorted_iff {spots : List Spot} {spot : Spot} : spot ∈ sorted spots ↔ spot ∈ spots := by
  rw [sorted, List.mem_mergeSort, List.mem_eraseDups]

theorem nodup_sorted (spots : List Spot) : (sorted spots).Nodup :=
  (List.mergeSort_perm _ _).nodup_iff.2 (eraseDups_eq_iff.1 rfl).nodup

/-- Sorting leaves no spot before one that should precede it. -/
theorem pairwise_not_lt_sorted (spots : List Spot) :
    (sorted spots).Pairwise fun earlier later => ¬ later.shown < earlier.shown := by
  have hle : ∀ a b : Spot, (!List.lex b.shown a.shown (· < ·)) = true ↔ ¬ b.shown < a.shown := by
    intro a b
    rw [Bool.not_eq_true', ← Bool.not_eq_true, List.lex_eq_true_iff_lt]
  refine (List.pairwise_mergeSort ?_ ?_ spots.eraseDups).imp fun h => (hle _ _).1 h
  · intro a b c hab hbc
    rw [hle] at hab hbc ⊢
    exact not_lt_of_ge (le_trans (not_lt.1 hab) (not_lt.1 hbc))
  · intro a b
    rw [Bool.or_eq_true, hle, hle]
    exact (le_total a.shown b.shown).imp not_lt_of_ge not_lt_of_ge

/-- Spots from one place are sorted strictly. -/
theorem pairwise_sorted {spots : List Spot} (h : ∀ spot ∈ spots, spot.IsFrom place) :
    (sorted spots).Pairwise fun earlier later => earlier.shown < later.shown := by
  refine ((nodup_sorted spots).and (pairwise_not_lt_sorted spots)).imp_of_mem ?_
  rintro a b ha hb ⟨hne, hle⟩
  refine lt_of_le_of_ne (not_lt.1 hle) fun hshown => hne ?_
  exact (h a (mem_sorted_iff.1 ha)).eq_of_shown_eq (h b (mem_sorted_iff.1 hb)) hshown

/-- A strictly sorted list of spots is determined by its members. -/
theorem eq_of_pairwise_shown {spots others : List Spot}
    (hspots : spots.Pairwise fun earlier later => earlier.shown < later.shown)
    (hothers : others.Pairwise fun earlier later => earlier.shown < later.shown)
    (hmem : ∀ spot, spot ∈ spots ↔ spot ∈ others) : spots = others := by
  have : Std.Antisymm fun a b : Spot => a.shown < b.shown := ⟨fun _ _ h h' => absurd h' h.asymm⟩
  have : Std.Irrefl fun a b : Spot => a.shown < b.shown := ⟨fun _ => lt_irrefl _⟩
  exact List.Pairwise.eq_of_mem_iff hspots hothers (fun {_} => hmem _)

end Spot

/-! ### The files to survey -/

theorem mem_mapM_ok_iff {ε α β : Type} {f : α → Except ε β} {items : List α} {results : List β}
    (h : items.mapM f = .ok results) {result : β} :
    result ∈ results ↔ ∃ item ∈ items, f item = .ok result := by
  induction items generalizing results with
  | nil =>
    cases h
    simp
  | cons item rest ih =>
    rw [List.mapM_cons] at h
    cases hitem : f item with
    | error fault => simp [hitem, bind, Except.bind] at h
    | ok first =>
      cases hrest : rest.mapM f with
      | error fault => simp [hitem, hrest, bind, Except.bind] at h
      | ok others =>
        simp only [hitem, hrest, bind, Except.bind, pure, Except.pure, Except.ok.injEq] at h
        subst h
        rw [List.mem_cons, ih hrest, List.exists_mem_cons_iff, hitem, Except.ok.injEq, eq_comm]

/-- One of the patterns to search for leads to a spot. -/
def IsSelected (files : FileTree) (place : Location) (pattern? : Option String) (spot : Spot) :
    Prop :=
  ∃ pattern ∈ patternsOf pattern?, ∃ glob, Glob.ofString pattern = .ok glob ∧
    glob.Selects files place spot

/-- A file stands where a spot is. -/
def Spot.IsFile (files : FileTree) (spot : Spot) : Prop :=
  ∃ bytes, files.find? spot.place = some (.file bytes)

theorem Spot.hasFile_iff {files : FileTree} {spot : Spot} :
    files.hasFile spot.place = true ↔ spot.IsFile files := by
  rw [FileTree.hasFile, IsFile]
  cases files.find? spot.place with
  | none => simp
  | some found => cases found <;> simp [FileTree.isDirectory]

theorem mem_sourceFiles_iff {files : FileTree} {place : Location} {pattern? : Option String}
    {exclusions : List String} {spots : List Spot}
    (h : sourceFiles files place pattern? exclusions = .ok spots) :
    spots.Pairwise (fun earlier later => earlier.shown < later.shown) ∧
      ∀ spot, spot ∈ spots ↔
        IsSelected files place pattern? spot ∧ spot.IsFile files ∧ ¬ spot.Excluded exclusions := by
  rw [sourceFiles] at h
  cases hglobs : (patternsOf pattern?).mapM Glob.ofString with
  | error fault => simp [hglobs, bind, Except.bind] at h
  | ok globs =>
    simp only [hglobs, bind, Except.bind, pure, Except.pure, Except.ok.injEq] at h
    have hselected : ∀ spot, (∃ glob ∈ globs, spot ∈ glob.select files place) ↔
        IsSelected files place pattern? spot := by
      intro spot
      simp only [Glob.mem_select_iff, mem_mapM_ok_iff hglobs, IsSelected]
      constructor
      · rintro ⟨glob, ⟨pattern, hpattern, hglob⟩, hspot⟩
        exact ⟨pattern, hpattern, glob, hglob, hspot⟩
      · rintro ⟨pattern, hpattern, glob, hglob, hspot⟩
        exact ⟨glob, ⟨pattern, hpattern, hglob⟩, hspot⟩
    subst h
    have hfrom : ∀ spot ∈ (globs.flatMap fun glob => glob.select files place).filter
        (fun spot => files.hasFile spot.place && !spot.isExcluded exclusions),
        spot.IsFrom place := by
      intro spot hspot
      obtain ⟨glob, -, hselect⟩ := List.mem_flatMap.1 (List.mem_filter.1 hspot).1
      exact Spot.isFrom_of_selects (Glob.mem_select_iff.1 hselect)
    refine ⟨Spot.pairwise_sorted hfrom, fun spot => ?_⟩
    rw [Spot.mem_sorted_iff, List.mem_filter, List.mem_flatMap, hselected, Bool.and_eq_true,
      Spot.hasFile_iff, Bool.not_eq_true', ← Bool.not_eq_true, Spot.isExcluded_iff]

/-- The files of a directory that are selected by a pattern that can be accepted: those that the
pattern, or where none is asked for one of the usual patterns, leads to and that no exclusion stands
for, in the strict order of the components of their ways. More exclusions leave out what they stand
for and nothing else, and a plain name among the exclusions is on no way, at any depth. -/
theorem sourceFiles_exact (files : FileTree) (place : Location) {pattern? : Option String}
    (hpattern : Glob.Acceptable pattern?) (exclusions : List String) :
    ∃ spots, sourceFiles files place pattern? exclusions = .ok spots ∧
      spots.Pairwise (fun earlier later => earlier.shown < later.shown) ∧
      (∀ spot, spot ∈ spots ↔
        IsSelected files place pattern? spot ∧ spot.IsFile files ∧ ¬ spot.Excluded exclusions) ∧
      (∀ more, sourceFiles files place pattern? (exclusions ++ more) =
        .ok (spots.filter fun spot => ¬ spot.Excluded more)) ∧
      ∀ name ∈ exclusions, isWild name = false → ∀ spot ∈ spots, name ∉ spot.shown := by
  obtain ⟨spots, hspots⟩ := exists_sourceFiles_iff.2 hpattern
  obtain ⟨hsorted, hmem⟩ := mem_sourceFiles_iff hspots
  refine ⟨spots, hspots, hsorted, hmem, fun more => ?_, ?_⟩
  · obtain ⟨fewer, hfewer⟩ := exists_sourceFiles_iff.2 hpattern
    obtain ⟨hfewersorted, hfewermem⟩ := mem_sourceFiles_iff hfewer
    rw [hfewer, Except.ok.injEq]
    refine Spot.eq_of_pairwise_shown hfewersorted (hsorted.filter _) fun spot => ?_
    rw [hfewermem, List.mem_filter, hmem, Spot.excluded_append_iff, not_or, decide_eq_true_iff]
    simp only [and_assoc]
  · intro name hname hplain spot hspot hshown
    exact ((hmem spot).1 hspot).2.2 (Spot.excluded_of_mem_shown hname hplain hshown)

/-- A directory with a file, a directory whose name begins in the same way, and one to leave out. -/
def sampleDirectory : FileTree :=
  .directory [("a.ts", .file []), ("lib", .directory [("c.ts", .file [])]),
    ("a", .directory [("b.ts", .file []), ("lib", .directory [])])]

/-- The order is that of components: the directory `a` precedes the file `a.ts`. -/
theorem sourceFiles_exact_sample :
    Glob.Acceptable (some "**/*.ts") ∧
      sourceFiles sampleDirectory [] (some "**/*.ts") ["lib"] =
        .ok [⟨["a", "b.ts"], ["a", "b.ts"]⟩, ⟨["a.ts"], ["a.ts"]⟩] := by
  have hglob : Glob.ofString "**/*.ts" =
      .ok ⟨[.anyDepth, .matching [.run, .char '.', .char 't', .char 's']], false⟩ := rfl
  have hselect : Glob.select sampleDirectory []
      ⟨[.anyDepth, .matching [.run, .char '.', .char 't', .char 's']], false⟩ =
      [⟨["a.ts"], ["a.ts"]⟩, ⟨["lib", "c.ts"], ["lib", "c.ts"]⟩, ⟨["a", "b.ts"], ["a", "b.ts"]⟩] := rfl
  have hacceptable : Glob.Acceptable (some "**/*.ts") := by
    rintro pattern ⟨⟩ -
    exact Glob.exists_ofString_iff.1 ⟨_, hglob⟩
  have hselected : ∀ spot, IsSelected sampleDirectory [] (some "**/*.ts") spot ↔ spot ∈
      [⟨["a.ts"], ["a.ts"]⟩, ⟨["lib", "c.ts"], ["lib", "c.ts"]⟩, ⟨["a", "b.ts"], ["a", "b.ts"]⟩] := by
    intro spot
    rw [← hselect, Glob.mem_select_iff]
    simp [IsSelected, patternsOf, hglob]
  have hfile : Spot.IsFile sampleDirectory ⟨["a", "b.ts"], ["a", "b.ts"]⟩ ∧
      Spot.IsFile sampleDirectory ⟨["a.ts"], ["a.ts"]⟩ := ⟨⟨[], rfl⟩, ⟨[], rfl⟩⟩
  have hkept : ¬ Spot.Excluded ["lib"] ⟨["a", "b.ts"], ["a", "b.ts"]⟩ ∧
      ¬ Spot.Excluded ["lib"] ⟨["a.ts"], ["a.ts"]⟩ := by decide
  have hleft : Spot.Excluded ["lib"] ⟨["lib", "c.ts"], ["lib", "c.ts"]⟩ := by decide
  obtain ⟨spots, hspots, hsorted, hmem, -, -⟩ :=
    sourceFiles_exact sampleDirectory [] hacceptable ["lib"]
  refine ⟨hacceptable, hspots.trans (congrArg _ ?_)⟩
  refine Spot.eq_of_pairwise_shown hsorted (by decide) fun spot => ?_
  rw [hmem, hselected, List.mem_pair]
  constructor
  · rintro ⟨hspot, -, hnot⟩
    rcases List.mem_cons.1 hspot with rfl | hspot
    · exact .inr rfl
    · rcases List.mem_pair.1 hspot with rfl | rfl
      · exact absurd hleft hnot
      · exact .inl rfl
  · rintro (rfl | rfl)
    · exact ⟨by simp, hfile.1, hkept.1⟩
    · exact ⟨by simp, hfile.2, hkept.2⟩

end ComponentSurvey

import ComponentSurvey.Proofs.FileOutline
import ComponentSurvey.Proofs.FirstOccurrences
import ComponentSurvey.Proofs.Readable
import Mathlib.Data.List.Basic

/-!
# Surveys of a directory finish in any order

The files of a directory are surveyed one by one, and each survey depends on one file alone. The
order in which the surveys are finished is erased by sorting them: two surveys of one path are of one
file, so that the order by paths leaves no choice.

* `FileSurvey.ofFile?` — the survey of a file that can be decoded and parsed.
* `sortedByPath_surveysAt` — sorting erases the order in which surveys were made.
* `filter_sortedByPath` — what is found for a file depends on no other file.
* `value_surveyConcurrently`, `isClean_surveyConcurrently_iff` — a run under any schedule.
* `surveyConcurrently_any_schedule` — every schedule gives the surveys that the sequential run gives.
-/

namespace ComponentSurvey

theorem Logged.exists_interruption {α : Type} {x : Logged α} (h : ¬ x.IsClean) :
    ∃ cause, x.outcome.value = .error cause := by
  cases hx : x.outcome.value with
  | error cause => exact ⟨cause, rfl⟩
  | ok a => exact absurd (value_outcome_eq_ok_iff.1 hx).1 h

/-! ### One file -/

namespace FileSurvey

variable {parser : Parser} {files other : FileTree} {place : Location}

/-- The survey of the file at a place, if it can be decoded and parsed. -/
def ofFile? (parser : Parser) (files : FileTree) (place : Location) : Option FileSurvey :=
  (ofFile parser files place).value.toOption

/-- A survey is of what stands at its place. -/
theorem ofFile_congr (h : other.find? place = files.find? place) :
    ofFile parser other place = ofFile parser files place := by
  rw [ofFile, ofFile, h]

theorem exists_tree_of_ofSource {source path : String} {survey : FileSurvey}
    (h : (ofSource parser source path).value = .ok survey) :
    ∃ root, survey = (ofTree root path).value := by
  rw [ofSource, Logged.value_bind] at h
  split at h
  · cases h
  · rename_i root _
    cases h
    exact ⟨root, rfl⟩

/-- A survey of a file is that of some tree, for a file that is there. -/
theorem exists_tree_of_ofFile {survey : FileSurvey}
    (h : (ofFile parser files place).value = .ok survey) :
    (∃ bytes, files.find? place = some (.file bytes)) ∧
      ∃ root, survey = (ofTree root place.text).value := by
  rw [ofFile] at h
  split at h
  · cases h
  · cases h
  · rename_i bytes hbytes
    split at h
    · cases h
    · exact ⟨⟨bytes, hbytes⟩, exists_tree_of_ofSource h⟩

theorem ofFile?_eq_some_iff {survey : FileSurvey} :
    ofFile? parser files place = some survey ↔ (ofFile parser files place).value = .ok survey := by
  rw [ofFile?]
  cases (ofFile parser files place).value <;> simp [Except.toOption]

/-- A survey is labelled with the place of a file that is there. -/
theorem of_ofFile? {survey : FileSurvey} (h : ofFile? parser files place = some survey) :
    (∃ bytes, files.find? place = some (.file bytes)) ∧ survey.path = place.text := by
  obtain ⟨hbytes, root, rfl⟩ := exists_tree_of_ofFile (ofFile?_eq_some_iff.1 h)
  exact ⟨hbytes, rfl⟩

end FileSurvey

/-- Two files of one text are one file. -/
theorem FileTree.SlashFree.eq_of_text {files : FileTree} (h : files.SlashFree)
    {first second : Location} {bytes others : List UInt8}
    (hfirst : files.find? first = some (.file bytes))
    (hsecond : files.find? second = some (.file others)) (htext : first.text = second.text) :
    first = second := by
  have hroot : ∀ {place : Location} {some_bytes : List UInt8}, files = .file some_bytes →
      (files.find? place).isSome → place = [] := by
    intro place some_bytes hfile hplace
    cases place with
    | nil => rfl
    | cons name rest =>
      rw [hfile] at hplace
      simp [find?, entries] at hplace
  cases hne : first with
  | nil =>
    rw [hne] at hfirst
    exact (hroot (Option.some.inj hfirst) (by rw [hsecond]; rfl)).symm
  | cons name rest =>
    rw [← hne]
    refine Location.eq_of_text (h first (by rw [hfirst]; rfl)) (h second (by rw [hsecond]; rfl))
      (by rw [hne]; simp) ?_ htext
    intro hempty
    rw [hempty] at hsecond
    have := hroot (Option.some.inj hsecond) (by rw [hfirst]; rfl)
    rw [this] at hne
    cases hne

/-! ### Sorting by paths -/

theorem pairwise_sortedByPath (surveys : List FileSurvey) :
    (sortedByPath surveys).Pairwise fun a b => a.path ≤ b.path := by
  refine (List.pairwise_mergeSort ?_ ?_ surveys).imp fun h => of_decide_eq_true h
  · intro a b c hab hbc
    simp only [decide_eq_true_eq] at hab hbc ⊢
    exact String.le_trans hab hbc
  · intro a b
    simp only [Bool.or_eq_true, decide_eq_true_eq]
    exact String.le_total a.path b.path

theorem sortedByPath_perm_self (surveys : List FileSurvey) : (sortedByPath surveys).Perm surveys :=
  List.mergeSort_perm surveys _

/-- Surveys that are told by their paths stand in the order of the paths in one way only. -/
theorem eq_of_perm_of_pairwise {first second : List FileSurvey} (hperm : first.Perm second)
    (hpath : ∀ a ∈ first, ∀ b ∈ first, a.path = b.path → a = b)
    (hfirst : first.Pairwise fun a b => a.path ≤ b.path)
    (hsecond : second.Pairwise fun a b => a.path ≤ b.path) : first = second := by
  refine List.Perm.eq_of_pairwise ?_ hfirst hsecond hperm
  intro a b ha hb hab hba
  exact hpath a ha b (hperm.mem_iff.2 hb) (String.le_antisymm hab hba)

/-! ### A run under a schedule -/

section Run

variable {parser : Parser} {files : FileTree} {directory : Location} {spots : List Spot}

theorem value_surveySpot (spot : Spot) :
    (surveySpot parser files directory spot).value
      = FileSurvey.ofFile? parser files spot.place := by
  rw [surveySpot, Logged.value_bind, FileSurvey.ofFile?]
  split <;> rename_i h <;> rw [h] <;> rfl

theorem isClean_surveySpot_iff (spot : Spot) :
    (surveySpot parser files directory spot).IsClean
      ↔ (FileSurvey.ofFile parser files spot.place).IsClean := by
  rw [surveySpot, Logged.isClean_bind_iff]
  refine and_iff_left ?_
  split
  · exact Logged.isClean_pure _
  · exact (Logged.isClean_note rfl).bind (Logged.isClean_pure _)

/-- The surveys of the files at some spots, in their order. -/
def surveysAt (parser : Parser) (files : FileTree) (spots : List Spot) : List FileSurvey :=
  spots.filterMap fun spot => FileSurvey.ofFile? parser files spot.place

theorem mem_surveysAt {survey : FileSurvey} :
    survey ∈ surveysAt parser files spots
      ↔ ∃ spot ∈ spots, FileSurvey.ofFile? parser files spot.place = some survey :=
  List.mem_filterMap

theorem value_surveyFiles :
    (surveyFiles parser files directory spots).value
      = sortedByPath (surveysAt parser files spots) := by
  rw [surveyFiles, Logged.value_map, Logged.value_collect, surveysAt]
  simp only [value_surveySpot]

theorem isClean_surveyFiles_iff :
    (surveyFiles parser files directory spots).IsClean
      ↔ ∀ spot ∈ spots, (FileSurvey.ofFile parser files spot.place).IsClean := by
  rw [surveyFiles, Logged.isClean_map_iff, Logged.isClean_collect_iff]
  exact forall₂_congr fun spot _ => isClean_surveySpot_iff spot

variable (parser) {pattern? : Option String} {exclusions : List String} {schedule : List Spot → List Spot}
  (hschedule : ∀ spots, (schedule spots).Perm spots)
  (hspots : filesToSurvey files directory pattern? exclusions = .ok spots)

include hschedule hspots

/-- A run gives the surveys in the order of their paths, made in the order of the schedule. -/
theorem value_surveyConcurrently :
    (surveyConcurrently schedule parser files directory pattern? exclusions).value
      = .ok (sortedByPath (surveysAt parser files (schedule spots))) := by
  rw [surveyConcurrently, hspots]
  cases spots with
  | nil =>
    rw [List.perm_nil.1 (hschedule []), surveysAt, List.filterMap_nil, sortedByPath,
      List.mergeSort_nil]
    rfl
  | cons spot rest => exact congrArg Except.ok value_surveyFiles

/-- A run is cut short exactly if the survey of one of the files is. -/
theorem isClean_surveyConcurrently_iff :
    (surveyConcurrently schedule parser files directory pattern? exclusions).IsClean
      ↔ ∀ spot ∈ spots, (FileSurvey.ofFile parser files spot.place).IsClean := by
  rw [surveyConcurrently, hspots]
  cases spots with
  | nil =>
    refine iff_of_true ?_ (by simp)
    exact (Logged.isClean_note rfl).bind (Logged.isClean_pure _)
  | cons spot rest =>
    refine Logged.isClean_map_iff.trans
      (isClean_surveyFiles_iff.trans (forall_congr' fun other => ?_))
    rw [(hschedule (spot :: rest)).mem_iff]

end Run

/-! ### Surveys told by their paths -/

section Paths

variable {parser : Parser} {files other : FileTree} {spots : List Spot}

theorem surveysAt_perm {first second : List Spot} (h : first.Perm second) :
    (surveysAt parser files first).Perm (surveysAt parser files second) :=
  h.filterMap _

/-- Two surveys of one path are of one file. -/
theorem eq_of_path (hfiles : files.SlashFree) {a b : FileSurvey}
    (ha : a ∈ surveysAt parser files spots) (hb : b ∈ surveysAt parser files spots)
    (h : a.path = b.path) : a = b := by
  obtain ⟨first, _, hfirst⟩ := mem_surveysAt.1 ha
  obtain ⟨second, _, hsecond⟩ := mem_surveysAt.1 hb
  obtain ⟨⟨bytes, hbytes⟩, hpath⟩ := FileSurvey.of_ofFile? hfirst
  obtain ⟨⟨others, hothers⟩, hpath'⟩ := FileSurvey.of_ofFile? hsecond
  have hplace : first.place = second.place :=
    hfiles.eq_of_text hbytes hothers (by rw [← hpath, h, hpath'])
  rw [hplace, hsecond] at hfirst
  exact (Option.some.inj hfirst).symm

/-- Sorting erases the order in which surveys were made. -/
theorem sortedByPath_surveysAt (hfiles : files.SlashFree) {first second : List Spot}
    (h : first.Perm second) :
    sortedByPath (surveysAt parser files first) = sortedByPath (surveysAt parser files second) := by
  have hsorted := sortedByPath_perm_self (surveysAt parser files first)
  refine eq_of_perm_of_pairwise ?_ ?_ (pairwise_sortedByPath _) (pairwise_sortedByPath _)
  · exact hsorted.trans ((surveysAt_perm h).trans (sortedByPath_perm_self _).symm)
  · exact fun a ha b hb => eq_of_path hfiles (hsorted.mem_iff.1 ha) (hsorted.mem_iff.1 hb)

/-- The surveys of one path are those of the file at its place. -/
theorem filter_surveysAt (hfiles : files.SlashFree) {place : Location} {bytes : List UInt8}
    (hplace : files.find? place = some (.file bytes)) :
    (surveysAt parser files spots).filter (fun survey => survey.path == place.text)
      = surveysAt parser files (spots.filter fun spot => spot.place == place) := by
  rw [surveysAt, surveysAt, List.filter_filterMap, List.filterMap_filter]
  refine List.filterMap_congr fun spot _ => ?_
  cases hsurvey : FileSurvey.ofFile? parser files spot.place with
  | none => simp
  | some survey =>
    obtain ⟨⟨others, hothers⟩, hpath⟩ := FileSurvey.of_ofFile? hsurvey
    rw [Option.filter_some, hpath]
    by_cases heq : spot.place = place
    · simp [heq]
    · have htext : spot.place.text ≠ place.text := fun htext =>
        heq (hfiles.eq_of_text hothers hplace htext)
      simp [heq, htext]

/-- What is found for a file depends on no other file. -/
theorem filter_sortedByPath (hfiles : files.SlashFree) (houtline : other.outline = files.outline)
    {place : Location} {bytes : List UInt8} (hplace : files.find? place = some (.file bytes))
    (hother : other.find? place = some (.file bytes)) :
    (sortedByPath (surveysAt parser other spots)).filter (fun survey => survey.path == place.text)
      = (sortedByPath (surveysAt parser files spots)).filter
        (fun survey => survey.path == place.text) := by
  have hsame : surveysAt parser other (spots.filter fun spot => spot.place == place)
      = surveysAt parser files (spots.filter fun spot => spot.place == place) := by
    refine List.filterMap_congr fun spot hspot => ?_
    rw [beq_iff_eq.1 (List.mem_filter.1 hspot).2, FileSurvey.ofFile?, FileSurvey.ofFile?,
      FileSurvey.ofFile_congr (hother.trans hplace.symm)]
  have hperm : ∀ tree : FileTree, ((sortedByPath (surveysAt parser tree spots)).filter
      fun survey => survey.path == place.text).Perm
      ((surveysAt parser tree spots).filter fun survey => survey.path == place.text) :=
    fun tree => (sortedByPath_perm_self _).filter _
  have hothers := hperm other
  rw [filter_surveysAt (hfiles.of_outline houtline) hother, hsame, ← filter_surveysAt hfiles hplace]
    at hothers
  refine eq_of_perm_of_pairwise (hothers.trans (hperm files).symm) ?_
    ((pairwise_sortedByPath _).filter _) ((pairwise_sortedByPath _).filter _)
  intro a ha b hb
  exact eq_of_path hfiles (List.mem_filter.1 (hothers.mem_iff.1 ha)).1
    (List.mem_filter.1 (hothers.mem_iff.1 hb)).1

end Paths

/-! ### The files to survey -/

/-- The files to survey are files, and each way to one counts once. -/
theorem filesToSurvey_cases {files : FileTree} {directory : Location} {pattern? : Option String}
    {exclusions : List String} {spots : List Spot}
    (h : filesToSurvey files directory pattern? exclusions = .ok spots) :
    spots.Nodup ∧ ∀ spot ∈ spots, ∃ bytes, files.find? spot.place = some (.file bytes) := by
  have hsources : sourceFiles files directory pattern? exclusions = .ok spots := by
    rw [filesToSurvey] at h
    split at h
    · cases h
    · cases h
    · cases hfound : sourceFiles files directory pattern? exclusions with
      | error fault => rw [hfound] at h; cases h
      | ok found => rw [hfound] at h; cases h; rfl
  rw [sourceFiles] at hsources
  cases hglobs : (patternsOf pattern?).mapM Glob.ofString with
  | error fault => rw [hglobs] at hsources; cases hsources
  | ok globs =>
    rw [hglobs] at hsources
    cases hsources
    refine ⟨(List.mergeSort_perm _ _).nodup_iff.2 (eraseDups_eq_iff.1 rfl).nodup, fun spot hspot => ?_⟩
    have hkept := (List.mem_filter.1 (List.mem_eraseDups.1 (List.mem_mergeSort.1 hspot))).2
    have hfile := (Bool.and_eq_true_iff.1 hkept).1
    rw [FileTree.hasFile] at hfile
    cases hfound : files.find? spot.place with
    | none => rw [hfound] at hfile; cases hfile
    | some found =>
      cases found with
      | file bytes => exact ⟨bytes, rfl⟩
      | directory entries => rw [hfound] at hfile; cases hfile

/-! ### Every schedule -/

/-- The surveys of a directory do not depend on the order in which they are finished: every schedule
gives what the sequential run gives. That is the surveys of the files that can be decoded and parsed,
one for each, in the order of their paths; the other files are left out, and what is found for a file
is the same whatever is in the others. Where a text cannot be read or a grammar cannot be loaded, no
schedule gives anything. -/
theorem surveyConcurrently_any_schedule (parser : Parser) {files : FileTree}
    (hfiles : files.SlashFree) (directory : Location) (pattern? : Option String)
    (exclusions : List String) {schedule : List Spot → List Spot}
    (hschedule : ∀ spots, (schedule spots).Perm spots) :
    let outcome := (surveyDirectory parser files directory pattern? exclusions).outcome.value
    (∀ result,
      (surveyConcurrently schedule parser files directory pattern? exclusions).outcome.value
        = .ok result ↔ outcome = .ok result) ∧
    (∀ failure, filesToSurvey files directory pattern? exclusions = .error failure →
      outcome = .ok (.error failure)) ∧
    ∀ spots, filesToSurvey files directory pattern? exclusions = .ok spots →
      spots.Nodup ∧
      ((∃ spot ∈ spots, ¬ (FileSurvey.ofFile parser files spot.place).IsClean) →
        ∃ cause, outcome = .error cause) ∧
      ((∀ spot ∈ spots, (FileSurvey.ofFile parser files spot.place).IsClean) →
        ∃ surveys, outcome = .ok (.ok surveys) ∧
          surveys.Perm (spots.filterMap fun spot => FileSurvey.ofFile? parser files spot.place) ∧
          surveys.Pairwise (fun a b => a.path ≤ b.path) ∧
          (∀ spot ∈ spots, FileSurvey.ofFile? parser files spot.place = none →
            ∀ survey ∈ surveys, survey.path ≠ spot.place.text) ∧
          ∀ (other : FileTree) (others : List FileSurvey), other.outline = files.outline →
            (surveyDirectory parser other directory pattern? exclusions).outcome.value
              = .ok (.ok others) →
            ∀ (place : Location) (bytes : List UInt8),
              files.find? place = some (.file bytes) → other.find? place = some (.file bytes) →
              others.filter (fun survey => survey.path == place.text)
                = surveys.filter (fun survey => survey.path == place.text)) := by
  intro outcome
  have hself : ∀ spots : List Spot, (id spots).Perm spots := fun spots => .refl spots
  cases hspots : filesToSurvey files directory pattern? exclusions with
  | error failure =>
    have hrun : ∀ order, surveyConcurrently order parser files directory pattern? exclusions
        = pure (.error failure) := fun order => by rw [surveyConcurrently, hspots]
    refine ⟨fun result => ?_, ?_, fun spots h => nomatch h⟩
    · rw [hrun schedule, ← hrun id]
      rfl
    · rintro _ ⟨⟩
      show (surveyConcurrently id parser files directory pattern? exclusions).outcome.value = _
      rw [hrun id]
      rfl
  | ok spots =>
    have hclean := isClean_surveyConcurrently_iff parser hself hspots
    have hvalue := value_surveyConcurrently parser hself hspots
    refine ⟨fun result => ?_, (fun failure h => nomatch h), ?_⟩
    · show _ ↔ (surveyConcurrently id parser files directory pattern? exclusions).outcome.value = _
      rw [Logged.value_outcome_eq_ok_iff, Logged.value_outcome_eq_ok_iff, hclean, hvalue,
        isClean_surveyConcurrently_iff parser hschedule hspots,
        value_surveyConcurrently parser hschedule hspots,
        sortedByPath_surveysAt hfiles (hschedule spots)]
      rfl
    · rintro _ ⟨⟩
      refine ⟨(filesToSurvey_cases hspots).1, ?_,
        fun hall => ⟨sortedByPath (surveysAt parser files spots), ?_, ?_, ?_, ?_, ?_⟩⟩
      · rintro ⟨spot, hspot, hinterrupted⟩
        exact Logged.exists_interruption fun hrun => hinterrupted (hclean.1 hrun spot hspot)
      · exact Logged.value_outcome_eq_ok_iff.2 ⟨hclean.2 hall, hvalue⟩
      · exact sortedByPath_perm_self _
      · exact pairwise_sortedByPath _
      · intro spot hspot hnone survey hsurvey hpath
        obtain ⟨found, _, hfound⟩ :=
          mem_surveysAt.1 ((sortedByPath_perm_self _).mem_iff.1 hsurvey)
        obtain ⟨⟨bytes, hbytes⟩, htext⟩ := FileSurvey.of_ofFile? hfound
        obtain ⟨others, hothers⟩ := (filesToSurvey_cases hspots).2 spot hspot
        have hplace := hfiles.eq_of_text hbytes hothers (htext.symm.trans hpath)
        rw [hplace, hnone] at hfound
        cases hfound
      · intro other others houtline hothers place bytes hplace hother
        have hspots' : filesToSurvey other directory pattern? exclusions = .ok spots := by
          rw [← filesToSurvey_outline, houtline, filesToSurvey_outline, hspots]
        have hsurveys := (Logged.value_outcome_eq_ok_iff.1 hothers).2
        rw [surveyDirectory, value_surveyConcurrently parser hself hspots', Except.ok.injEq] at hsurveys
        rw [← hsurveys]
        exact filter_sortedByPath hfiles houtline hplace hother

/-- Two files that hold nothing to find and one that is no text. -/
def sampleItems : List SnapshotFile :=
  [⟨"p/a.ts", .file [0xFF], none⟩, ⟨"p/b.ts", .file [], none⟩, ⟨"p/c.ts", .file [0x0A], none⟩]

/-- The project that holds these files. -/
def sampleFiles : FileTree := (World.ofSnapshot [] sampleItems).files

/-- A parser that finds nothing in any source. -/
def sampleParser : Parser := fun _ => .ok fun text =>
  .ok ⟨.mk (.sample .program none 0 text) [], false⟩

/-- The survey of a file in which nothing is found. -/
def emptySurvey (path : String) : FileSurvey := ⟨path, .unknown, .vanilla, [], [], []⟩

/-- The file that is no text is left out, and the others stand in the order of their paths although
the last of them is finished first. -/
theorem surveyConcurrently_reversed :
    sampleFiles.SlashFree ∧ (∀ spots : List Spot, spots.reverse.Perm spots) ∧
      (surveyConcurrently List.reverse sampleParser sampleFiles ["p"] none []).outcome.value
        = .ok (.ok [emptySurvey "/p/b.ts", emptySurvey "/p/c.ts"]) := by
  have hfiles : sampleFiles.SlashFree := by
    refine World.slashFree_ofSnapshot (List.forall_mem_nil _) ?_
    simp only [sampleItems, List.forall_mem_cons, FileTree.slashFree_file]
    simp
  have hreverse : ∀ spots : List Spot, spots.reverse.Perm spots := List.reverse_perm
  have hspots : filesToSurvey sampleFiles ["p"] none [] =
      .ok [⟨["a.ts"], ["p", "a.ts"]⟩, ⟨["b.ts"], ["p", "b.ts"]⟩, ⟨["c.ts"], ["p", "c.ts"]⟩] := by
    have hsample : sampleFiles = .directory [("p", .directory
        [("a.ts", .file [0xFF]), ("b.ts", .file []), ("c.ts", .file [0x0A])])] := rfl
    rw [hsample]
    refine congrArg Except.ok (List.mergeSort_of_pairwise ?_)
    decide
  have hnone : ∃ failure, (FileSurvey.ofFile sampleParser sampleFiles ["p", "a.ts"]).outcome.value
      = .ok (.error failure) := ⟨_, rfl⟩
  have hb : (FileSurvey.ofFile sampleParser sampleFiles ["p", "b.ts"]).outcome.value
      = .ok (.ok (emptySurvey "/p/b.ts")) := by decide +kernel
  have hc : (FileSurvey.ofFile sampleParser sampleFiles ["p", "c.ts"]).outcome.value
      = .ok (.ok (emptySurvey "/p/c.ts")) := by decide +kernel
  obtain ⟨failure, hfailure⟩ := hnone
  obtain ⟨hany, -, hrun⟩ :=
    surveyConcurrently_any_schedule sampleParser hfiles ["p"] none [] hreverse
  rw [Logged.value_outcome_eq_ok_iff] at hfailure hb hc
  obtain ⟨surveys, hsurveys, hperm, hsorted, -, -⟩ := (hrun _ hspots).2.2 (by
    simp only [List.forall_mem_cons]
    exact ⟨hfailure.1, hb.1, hc.1, List.forall_mem_nil _⟩)
  have hmade : [emptySurvey "/p/b.ts", emptySurvey "/p/c.ts"].Perm surveys := by
    simpa [FileSurvey.ofFile?, hfailure.2, hb.2, hc.2, Except.toOption] using hperm.symm
  have horder := eq_of_perm_of_pairwise hmade (by decide) (by decide) hsorted
  exact ⟨hfiles, hreverse, (hany _).2 (horder ▸ hsurveys)⟩

end ComponentSurvey

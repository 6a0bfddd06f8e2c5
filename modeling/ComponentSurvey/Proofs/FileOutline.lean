import ComponentSurvey.Project.Snapshot

/-!
# Which files are surveyed

The files of a directory are chosen by their places alone. So two trees that differ only in the
bytes of their files have the same files to survey, and where no name holds a slash a file is told
by the text of its place.

* `FileTree.outline` — a tree with the bytes of its files left out.
* `filesToSurvey_outline` — which files are surveyed does not depend on what is in them.
* `FileTree.SlashFree` — no name in a tree holds a slash; `World.slashFree_ofSnapshot` — so it is in
  every snapshot.
* `Location.eq_of_text` — a place is told by its text.
-/

namespace ComponentSurvey

namespace FileTree

/-! ### Trees without the bytes of their files -/

mutual

/-- A tree with the bytes of its files left out. -/
def outline : FileTree → FileTree
  | .file _ => .file []
  | .directory entries => .directory (outlines entries)

/-- Entries with the bytes of their files left out. -/
def outlines : List (String × FileTree) → List (String × FileTree)
  | [] => []
  | (name, tree) :: rest => (name, tree.outline) :: outlines rest

end

@[simp] theorem outlines_nil : outlines [] = [] := by simp [outlines]

@[simp] theorem outlines_cons (name : String) (tree : FileTree) (rest : List (String × FileTree)) :
    outlines ((name, tree) :: rest) = (name, tree.outline) :: outlines rest := by
  simp [outlines]

@[simp] theorem isDirectory_outline (tree : FileTree) :
    tree.outline.isDirectory = tree.isDirectory := by
  cases tree <;> simp [outline, isDirectory]

theorem entries_outline (tree : FileTree) : tree.outline.entries = outlines tree.entries := by
  cases tree <;> simp [outline, entries]

theorem map_fst_outlines (entries : List (String × FileTree)) :
    (outlines entries).map Prod.fst = entries.map Prod.fst := by
  induction entries with
  | nil => simp
  | cons entry rest ih =>
    obtain ⟨name, tree⟩ := entry
    rw [outlines_cons, List.map_cons, List.map_cons, ih]

theorem lookup_outlines (name : String) (entries : List (String × FileTree)) :
    (outlines entries).lookup name = (entries.lookup name).map outline := by
  induction entries with
  | nil => simp
  | cons entry rest ih =>
    obtain ⟨other, tree⟩ := entry
    rw [outlines_cons, List.lookup_cons, List.lookup_cons, ih]
    split <;> rfl

/-- What stands at a place of the outline is the outline of what stands there. -/
theorem find?_outline (tree : FileTree) (place : Location) :
    tree.outline.find? place = (tree.find? place).map outline := by
  induction place generalizing tree with
  | nil => rfl
  | cons name rest ih =>
    rw [find?, find?, entries_outline, lookup_outlines]
    cases tree.entries.lookup name with
    | none => rfl
    | some held => exact ih held

mutual

theorem directories_outline : (tree : FileTree) → tree.outline.directories = tree.directories
  | .file _ => by simp [outline, directories]
  | .directory entries => by simp [outline, directories, directoriesIn_outlines entries]

theorem directoriesIn_outlines :
    (entries : List (String × FileTree)) → directoriesIn (outlines entries) = directoriesIn entries
  | [] => by simp
  | (name, tree) :: rest => by
    simp [directoriesIn, directories_outline tree, directoriesIn_outlines rest]

end

theorem hasDirectory_outline (tree : FileTree) (place : Location) :
    tree.outline.hasDirectory place = tree.hasDirectory place := by
  rw [hasDirectory, hasDirectory, find?_outline]
  cases tree.find? place <;> simp

theorem hasFile_outline (tree : FileTree) (place : Location) :
    tree.outline.hasFile place = tree.hasFile place := by
  rw [hasFile, hasFile, find?_outline]
  cases tree.find? place <;> simp

end FileTree

theorem GlobStep.candidates_outline (files : FileTree) (spot : Spot) (step : GlobStep) :
    step.candidates files.outline spot = step.candidates files spot := by
  cases step with
  | anyDepth =>
    rw [candidates, candidates, FileTree.find?_outline]
    cases files.find? spot.place with
    | none => rfl
    | some found =>
      rw [Option.map_some, Option.elim_some, Option.elim_some, FileTree.directories_outline]
  | named name => rfl
  | matching wildcard =>
    rw [candidates, candidates, FileTree.find?_outline]
    cases files.find? spot.place with
    | none => rfl
    | some found =>
      rw [Option.map_some, Option.elim_some, Option.elim_some, FileTree.entries_outline,
        FileTree.map_fst_outlines]

theorem Glob.selectFrom_outline (files : FileTree) (directoriesOnly : Bool) (steps : List GlobStep)
    (spots : List Spot) :
    selectFrom files.outline directoriesOnly steps spots
      = selectFrom files directoriesOnly steps spots := by
  induction steps generalizing spots with
  | nil => rfl
  | cons step rest ih =>
    rw [selectFrom, selectFrom]
    simp only [GlobStep.candidates_outline, FileTree.find?_outline, FileTree.hasDirectory_outline,
      Option.isSome_map, ih]

/-- Which files are to be surveyed does not depend on what is in them. -/
theorem filesToSurvey_outline (files : FileTree) (directory : Location) (pattern? : Option String)
    (exclusions : List String) :
    filesToSurvey files.outline directory pattern? exclusions
      = filesToSurvey files directory pattern? exclusions := by
  have hsources : sourceFiles files.outline directory pattern? exclusions
      = sourceFiles files directory pattern? exclusions := by
    simp only [sourceFiles, Glob.select, Glob.selectFrom_outline, FileTree.hasDirectory_outline,
      FileTree.hasFile_outline]
  rw [filesToSurvey, filesToSurvey, FileTree.find?_outline, hsources]
  cases files.find? directory with
  | none => rfl
  | some found => cases found <;> rfl

/-! ### Names without slashes -/

namespace Location

/-- No name on the way to a place holds a slash. -/
def SlashFree (place : Location) : Prop := ∀ name ∈ place, '/' ∉ name.toList

theorem toList_text (place : Location) :
    place.text.toList = '/' :: ['/'].intercalate (place.map String.toList) := by
  rw [text, String.toList_append, String.toList_intercalate]
  rfl

/-- A place is told by its text, the root apart. -/
theorem eq_of_text {first second : Location} (hfirst : first.SlashFree) (hsecond : second.SlashFree)
    (hne : first ≠ []) (hne' : second ≠ []) (h : first.text = second.text) : first = second := by
  have hchars := congrArg String.toList h
  rw [toList_text, toList_text, List.cons.injEq] at hchars
  have hsplit := congrArg (Text.split '/') hchars.2
  have hparts : ∀ place : Location, place.SlashFree → place ≠ [] →
      Text.split '/' (['/'].intercalate (place.map String.toList)) = place.map String.toList := by
    intro place hplace hplaces
    refine Text.split_intercalate (by simpa using hplaces) fun part hpart => ?_
    obtain ⟨name, hname, rfl⟩ := List.mem_map.1 hpart
    exact hplace name hname
  rw [hparts first hfirst hne, hparts second hsecond hne'] at hsplit
  exact (List.map_inj_right fun _ _ => String.toList_inj.1).1 hsplit

theorem slashFree_step {place : Location} (h : place.SlashFree) {component : String}
    (hcomponent : '/' ∉ component.toList) : (step place component).SlashFree := by
  rw [step]
  split
  · exact fun name hname => h name (List.dropLast_subset place hname)
  · intro name hname
    rcases List.mem_append.1 hname with hname | hname
    · exact h name hname
    · rw [List.mem_singleton.1 hname]
      exact hcomponent

end Location

/-- The components of a path hold no slash. -/
theorem Path.not_mem_components {text component : String}
    (h : component ∈ (Path.ofString text).components) : '/' ∉ component.toList := by
  obtain ⟨part, hpart, rfl⟩ := List.mem_map.1 (List.mem_filter.1 h).1
  rw [String.toList_ofList]
  exact Text.not_mem_of_mem_split hpart

/-- Where a path leads to, no name holds a slash. -/
theorem Path.slashFree_resolve {place : Location} (h : place.SlashFree) (text : String) :
    ((Path.ofString text).resolve place).SlashFree := by
  have hfold : ∀ (components : List String) (start : Location), start.SlashFree →
      (∀ component ∈ components, '/' ∉ component.toList) →
      (components.foldl Location.step start).SlashFree := by
    intro components
    induction components with
    | nil => exact fun start hstart _ => hstart
    | cons component rest ih =>
      intro start hstart hcomponents
      exact ih _ (Location.slashFree_step hstart (hcomponents component List.mem_cons_self))
        fun other hother => hcomponents other (List.mem_cons_of_mem _ hother)
  refine hfold _ _ ?_ fun component hcomponent => not_mem_components hcomponent
  split
  · exact fun name hname => absurd hname List.not_mem_nil
  · exact h

namespace FileTree

/-- No name in a tree holds a slash. -/
def SlashFree (files : FileTree) : Prop :=
  ∀ place : Location, (files.find? place).isSome → place.SlashFree

theorem slashFree_file (bytes : List UInt8) : (file bytes).SlashFree := by
  intro place hplace
  cases place with
  | nil => exact fun name hname => absurd hname List.not_mem_nil
  | cons name rest => simp [find?, entries] at hplace

theorem slashFree_empty : empty.SlashFree := by
  intro place hplace
  cases place with
  | nil => exact fun name hname => absurd hname List.not_mem_nil
  | cons name rest => simp [find?, entries, empty] at hplace

theorem SlashFree.of_outline {files other : FileTree} (h : files.SlashFree)
    (houtline : other.outline = files.outline) : other.SlashFree := by
  intro place hplace
  refine h place ?_
  rwa [← Option.isSome_map (f := outline), ← find?_outline, ← houtline, find?_outline,
    Option.isSome_map]

theorem lookup_putEntry_of_ne {name other : String} (hne : other ≠ name) (tree : FileTree)
    (entries : List (String × FileTree)) :
    (putEntry name tree entries).lookup other = entries.lookup other := by
  induction entries with
  | nil => simp [putEntry, List.lookup_cons, beq_false_of_ne hne]
  | cons entry rest ih =>
    obtain ⟨held, thing⟩ := entry
    rw [putEntry]
    split
    · rename_i heq
      subst heq
      simp [List.lookup_cons, beq_false_of_ne hne]
    · rw [List.lookup_cons, List.lookup_cons, ih]

/-- What is below an entry of a tree without slashes has none either. -/
theorem SlashFree.of_lookup {files held : FileTree} {name : String} (h : files.SlashFree)
    (hheld : files.entries.lookup name = some held) : held.SlashFree := by
  intro place hplace other hother
  refine h (name :: place) ?_ other (List.mem_cons_of_mem _ hother)
  rw [find?, hheld]
  exact hplace

/-- Putting something at a place brings no slash into the names. -/
theorem SlashFree.put {thing : FileTree} (hthing : thing.SlashFree) {place : Location}
    (hplace : place.SlashFree) {files : FileTree} (h : files.SlashFree) :
    (FileTree.put thing place files).SlashFree := by
  induction place generalizing files with
  | nil =>
    rw [FileTree.put]
    split
    · exact h
    · exact hthing
  | cons name rest ih =>
    have hheld : ((files.entries.lookup name).getD (if rest.isEmpty then thing else .empty)).SlashFree := by
      cases hlookup : files.entries.lookup name with
      | some held => exact h.of_lookup hlookup
      | none =>
        rw [Option.getD_none]
        split
        · exact hthing
        · exact slashFree_empty
    have hput := ih (fun other hother => hplace other (List.mem_cons_of_mem _ hother)) hheld
    intro way hway
    cases way with
    | nil => exact fun other hother => absurd hother List.not_mem_nil
    | cons first others =>
      rw [FileTree.put, find?, entries] at hway
      by_cases hfirst : first = name
      · subst hfirst
        rw [lookup_putEntry_self, Option.bind_some] at hway
        intro other hother
        rcases List.mem_cons.1 hother with rfl | hother
        · exact hplace _ List.mem_cons_self
        · exact hput others hway other hother
      · rw [lookup_putEntry_of_ne hfirst] at hway
        exact h (first :: others) hway

end FileTree

/-- The names in a snapshot hold no slash. -/
theorem World.slashFree_ofSnapshot {here : Location} (hhere : here.SlashFree)
    {items : List SnapshotFile} (hitems : ∀ item ∈ items, item.tree.SlashFree) :
    (World.ofSnapshot here items).files.SlashFree := by
  have hfold : ∀ (items : List SnapshotFile) (files : FileTree), files.SlashFree →
      (∀ item ∈ items, item.tree.SlashFree) →
      (items.foldl (fun files item =>
        FileTree.put item.tree ((Path.ofString item.path).resolve here) files) files).SlashFree := by
    intro items
    induction items with
    | nil => exact fun files hfiles _ => hfiles
    | cons item rest ih =>
      intro files hfiles hitems
      refine ih _ ?_ fun other hother => hitems other (List.mem_cons_of_mem _ hother)
      exact (hitems item List.mem_cons_self).put (Path.slashFree_resolve hhere item.path) hfiles
  exact hfold items _ (FileTree.slashFree_empty.put hhere FileTree.slashFree_empty) hitems

end ComponentSurvey

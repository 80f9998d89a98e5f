/-
This file says how a rendering pass ends. A pass that fails leaves the files alone
and the scene as the pass left it. Otherwise the scene is pruned in any case, its
text stays the same, and the file holds this text if a receipt is given for it;
where the directory for the file cannot be made, no file is touched.

A commit has four exits: no file is set, the directory cannot be made, the file
cannot be written, and the file was written. What the answer and the files have to
do with each other is one record, and each exit is shown to give it, from what a
single access to files does to a state. Nothing is known about the files but the two
laws of the store, so what is proved holds wherever these laws hold; that the text
of a scene survives pruning is a matter of scenes and stands first.
-/
import SolidScene.Proofs.Files.Store
import SolidScene.Proofs.Scene.Pruning
import SolidScene.Workspace

namespace SolidScene

namespace Scene

/-! ### The text of a pruned scene -/

/-- Without cycles at the top pruning leaves the solids as they are, also where handles dangle. The
scene that is left is unfolded down to its own size, which is still more than there is below one of
its nodes. -/
theorem solids_pruned_of_isAcyclic {scene : Scene} (acyclic : scene.IsAcyclic) :
    scene.pruned.solids = scene.solids := by
  rw [solids_eq, solids_eq, top_pruned]
  refine List.filterMap_congr fun root member => ?_
  have agrees := pruned_agreesBelow (isAttached_of_mem_top member)
  rw [solid?, solid?, ← agrees.unfold_eq]
  by_cases live : scene.pruned.contains root
  · have acyclicLeft := agrees.isAcyclicFrom (acyclic root member)
    have less := card_below_lt_size (acyclicLeft root Relation.ReflTransGen.refl) live
    exact unfold_eq_of_card_lt acyclicLeft less (less.trans_le (size_pruned_le scene))
  · rw [unfold_of_dead live, unfold_of_dead live]

end Scene

namespace Workspace

variable {σ : Type} [FileAccess (StateM σ)]

/-! ### Delivering a text -/

/-- The directory that is made for a file: the one that its path names, if directories are to be
made. A path that is a name alone names none. -/
def directoryFor? (settings : Settings) (path : String) : Option String :=
  if settings.makeDirectories then (Path.directory? path).filter (· ≠ "") else none

/-- Where a directory is made for a file, a fault names that directory. -/
theorem run_makeDirectory (settings : Settings) (path : String) (files : σ) :
    (makeDirectory settings path : StateM σ _).run files =
      match directoryFor? settings path with
      | none => (.ok (), files)
      | some directory =>
        match (FileAccess.makeDirectories directory : StateM σ _).run files with
        | (.ok (), made) => (.ok (), made)
        | (.error cause, made) => (.error (.file directory cause), made) := by
  rw [makeDirectory, directoryFor?]
  cases settings.makeDirectories with
  | false => rfl
  | true =>
    cases Path.directory? path with
    | none => rfl
    | some directory =>
      by_cases blank : directory = ""
      · subst blank
        rfl
      · simp only [blank, if_true, if_false, Option.filter, ne_eq, not_false_eq_true, decide_true,
          StateT.run_bind]
        rcases (FileAccess.makeDirectories directory : StateM σ _).run files with ⟨_ | _, made⟩
        · rfl
        · rfl

/-- A text is written once its directory is there. -/
theorem run_deliver (settings : Settings) (path text : String) (files : σ) :
    (deliver settings path text : StateM σ _).run files =
      match (makeDirectory settings path : StateM σ _).run files with
      | (.error fault, made) => (.error fault, made)
      | (.ok (), made) =>
        match (FileAccess.write path text : StateM σ _).run made with
        | (.ok (), written) => (.ok ⟨path, text.utf8ByteSize⟩, written)
        | (.error cause, written) => (.error (.file path cause), written) := by
  rw [deliver, StateT.run_bind]
  rcases (makeDirectory settings path : StateM σ _).run files with ⟨_ | _, made⟩
  · rfl
  · change ((FileAccess.write path text : StateM σ _) >>= _).run made = _
    rw [StateT.run_bind]
    simp only
    rcases (FileAccess.write path text : StateM σ _).run made with ⟨_ | _, written⟩
    · rfl
    · rfl

/-- A commit prunes the scene, and delivers the text of what is left if there is a file for it. -/
theorem run_commit (workspace : Workspace) (files : σ) :
    (workspace.commit : StateM σ _).run files =
      match workspace.settings.output with
      | none => ((.ok none, { workspace with scene := workspace.scene.pruned }), files)
      | some path =>
        match (deliver workspace.settings path workspace.scene.pruned.text : StateM σ _).run
          files with
        | (.ok receipt, after) =>
          ((.ok (some receipt), { workspace with scene := workspace.scene.pruned }), after)
        | (.error fault, after) =>
          ((.error fault, { workspace with scene := workspace.scene.pruned }), after) := by
  rw [commit]
  cases workspace.settings.output with
  | none => rfl
  | some path =>
    simp only [StateT.run_bind]
    rcases (deliver workspace.settings path workspace.scene.pruned.text : StateM σ _).run files
      with ⟨_ | _, after⟩
    · rfl
    · rfl

/-- Making the directory for a file changes no file. -/
theorem bytesAt?_makeDirectory [FileStore σ] {settings : Settings} {path : String} {files made : σ}
    {result : Except RenderFault Unit}
    (run : (makeDirectory settings path : StateM σ _).run files = (result, made))
    (place : FileStore.Place σ) :
    FileStore.bytesAt? made place = FileStore.bytesAt? files place := by
  rw [run_makeDirectory] at run
  split at run
  case h_1 =>
    cases run
    rfl
  case h_2 directory named =>
    have kept := FileStore.bytesAt?_makeDirectories files directory place
    split at run
    case h_1 done =>
      cases run
      rwa [done] at kept
    case h_2 done =>
      cases run
      rwa [done] at kept

/-- A directory that cannot be made is named in the fault. -/
theorem run_makeDirectory_of_fault {settings : Settings} {path directory : String} {files made : σ}
    {cause : FileFault} (named : directoryFor? settings path = some directory)
    (failed : (FileAccess.makeDirectories directory : StateM σ _).run files =
      (.error cause, made)) :
    (makeDirectory settings path : StateM σ _).run files =
      (.error (.file directory cause), made) := by
  rw [run_makeDirectory, named]
  simp only [failed]

/-! ### Commits -/

/-- The answer after a text was written to a file, or could not be. -/
def writeAnswer (path text : String) :
    Except FileFault Unit → Except RenderFault (Option Receipt)
  | .ok () => .ok (some ⟨path, text.toUTF8.size⟩)
  | .error cause => .error (.file path cause)

/-- The answer of a commit and the files that it leaves behind. -/
structure IsCommitted [FileStore σ] (workspace : Workspace) (files : σ)
    (result : Except RenderFault (Option Receipt)) (after : σ) : Prop where
  /-- The answer is nothing exactly if there is no file to write to. -/
  none_iff : result = .ok none ↔ workspace.settings.output = none
  /-- Then nothing is done to the files. -/
  files_eq : workspace.settings.output = none → after = files
  /-- A receipt is given only if the file holds the bytes of the text now, and tells how many they
  are. -/
  receipt : ∀ receipt, result = .ok (some receipt) →
    workspace.settings.output = some receipt.path ∧
      receipt.size = workspace.scene.text.toUTF8.size ∧
      ∃ place, FileStore.place? after receipt.path = some place ∧
        FileStore.bytesAt? after place = some workspace.scene.text.toUTF8
  /-- If the directory for the file cannot be made, the fault names the directory, nothing is done
  after that, and no file has changed. -/
  directory : ∀ path directory cause made, workspace.settings.output = some path →
    directoryFor? workspace.settings path = some directory →
    (FileAccess.makeDirectories directory : StateM σ _).run files = (.error cause, made) →
      result = .error (.file directory cause) ∧ after = made ∧
        ∀ place : FileStore.Place σ,
          FileStore.bytesAt? after place = FileStore.bytesAt? files place
  /-- If it can be made, or need not, the file is written next, and the answer is a receipt or a
  fault that names the file. -/
  file : ∀ path made, workspace.settings.output = some path →
    (makeDirectory workspace.settings path : StateM σ _).run files = (.ok (), made) →
      (∀ place : FileStore.Place σ,
        FileStore.bytesAt? made place = FileStore.bytesAt? files place) ∧
      ∀ outcome written,
        (FileAccess.write path workspace.scene.text : StateM σ _).run made = (outcome, written) →
          after = written ∧ result = writeAnswer path workspace.scene.text outcome

section

variable [FileStore σ] {workspace : Workspace} {path : String} {files made written : σ}

theorem isCommitted_of_no_file (unset : workspace.settings.output = none) :
    workspace.IsCommitted files (.ok none) files where
  none_iff := by simp [unset]
  files_eq _ := rfl
  receipt := by simp
  directory := by simp [unset]
  file := by simp [unset]

/-- The exit where the directory cannot be made. -/
theorem isCommitted_of_directory_fault (set : workspace.settings.output = some path)
    {fault : RenderFault} (failed : (makeDirectory workspace.settings path : StateM σ _).run files =
      (.error fault, made)) : workspace.IsCommitted files (.error fault) made where
  none_iff := by simp [set]
  files_eq := by simp [set]
  receipt := by simp
  directory other directory cause otherMade otherSet named otherFailed := by
    cases set.symm.trans otherSet
    cases failed.symm.trans (run_makeDirectory_of_fault named otherFailed)
    exact ⟨rfl, rfl, bytesAt?_makeDirectory failed⟩
  file other otherMade otherSet done := by
    cases set.symm.trans otherSet
    cases failed.symm.trans done

/-- The exits where the file is written, or cannot be. -/
theorem isCommitted_of_write (set : workspace.settings.output = some path)
    (done : (makeDirectory workspace.settings path : StateM σ _).run files = (.ok (), made))
    {outcome : Except FileFault Unit}
    (run : (FileAccess.write path workspace.scene.text : StateM σ _).run made =
      (outcome, written)) :
    workspace.IsCommitted files (writeAnswer path workspace.scene.text outcome) written where
  none_iff := by cases outcome <;> simp [set, writeAnswer]
  files_eq := by simp [set]
  receipt receipt given := by
    cases outcome with
    | error cause => cases given
    | ok _ =>
      cases given
      exact ⟨set, rfl, FileStore.bytesAt?_write run⟩
  directory other directory cause otherMade otherSet named failed := by
    cases set.symm.trans otherSet
    cases done.symm.trans (run_makeDirectory_of_fault named failed)
  file other otherMade otherSet otherDone := by
    cases set.symm.trans otherSet
    cases done.symm.trans otherDone
    refine ⟨bytesAt?_makeDirectory done, fun otherOutcome otherWritten otherRun => ?_⟩
    cases run.symm.trans otherRun
    exact ⟨rfl, rfl⟩

end

/-- A commit ends through one of these exits, if pruning leaves the text as it is. -/
theorem exists_isCommitted [FileStore σ] (workspace : Workspace) (files : σ)
    (same : workspace.scene.pruned.text = workspace.scene.text) :
    ∃ result after, (workspace.commit : StateM σ _).run files =
        ((result, { workspace with scene := workspace.scene.pruned }), after) ∧
      workspace.IsCommitted files result after := by
  rw [run_commit, same]
  cases output : workspace.settings.output with
  | none => exact ⟨_, _, rfl, isCommitted_of_no_file output⟩
  | some path =>
    simp only [run_deliver]
    rcases prepared : (makeDirectory workspace.settings path : StateM σ _).run files with
      ⟨fault | _, made⟩
    · exact ⟨_, _, rfl, isCommitted_of_directory_fault output prepared⟩
    · simp only
      rcases written : (FileAccess.write path workspace.scene.text : StateM σ _).run made with
        ⟨cause | _, after⟩
      · exact ⟨_, _, rfl, isCommitted_of_write output prepared written⟩
      · exact ⟨_, _, rfl, isCommitted_of_write output prepared written⟩

/-- How a rendering pass ends, whatever the pass does and whatever the files are. If the pass fails,
its fault is the answer, the files are as they were, and the scene is as the pass left it. If it
succeeds, what it left is committed. A commit of a scene without cycles at the top leaves the pruned
scene behind, whatever the answer is, and the text of the scene stays the same. -/
theorem render_and_commit [FileStore σ] (workspace : Workspace) (files : σ) :
    (∀ (pass : Edit Unit) fault scene, pass.run workspace.scene = .error fault scene →
      (workspace.render pass : StateM σ _).run files =
        ((.error (.edit fault), { workspace with scene }), files)) ∧
    (∀ (pass : Edit Unit) scene, pass.run workspace.scene = .ok () scene →
      (workspace.render pass : StateM σ _).run files =
        (commit { workspace with scene } : StateM σ _).run files) ∧
    (workspace.scene.IsAcyclic → ∃ result after,
      (workspace.commit : StateM σ _).run files =
        ((result, { workspace with scene := workspace.scene.pruned }), after) ∧
      workspace.scene.pruned.text = workspace.scene.text ∧
      workspace.IsCommitted files result after) := by
  refine ⟨fun pass fault scene failed => by rw [render, failed]; rfl,
    fun pass scene done => by rw [render, done], fun acyclic => ?_⟩
  have same : workspace.scene.pruned.text = workspace.scene.text :=
    Scene.text_eq_of_solids_eq (Scene.solids_pruned_of_isAcyclic acyclic)
  obtain ⟨result, after, run, committed⟩ := exists_isCommitted workspace files same
  exact ⟨result, after, run, same, committed⟩

/-- A disk with an older scene in a directory, and with a file where no directory can be made. -/
def shelf : Disk :=
  ⟨[(["out"], .directory), (["out", "scene.scad"], .file "a scene of an earlier rendering"),
    (["plain"], .file "")]⟩

/-- The scene with the twins is written in place of the older one, with the loose node freed. It is
not written below a file, and the fault names what is no directory. A pass that fails after it has
cleared the top leaves the scene cleared, and frees nothing. -/
theorem render_and_commit_shelf :
    (∃ result after,
      (commit ⟨⟨some "out/scene.scad", true⟩, Scene.twins⟩ : StateM Disk _).run shelf =
        ((result, ⟨⟨some "out/scene.scad", true⟩, Scene.twins.pruned⟩), after) ∧
      result = .ok (some ⟨"out/scene.scad", Scene.twins.text.toUTF8.size⟩) ∧
      after.bytesAt? ["out", "scene.scad"] = some Scene.twins.text.toUTF8) ∧
    (∃ result,
      (commit ⟨⟨some "plain/scene.scad", true⟩, Scene.twins⟩ : StateM Disk _).run shelf =
        ((result, ⟨⟨some "plain/scene.scad", true⟩, Scene.twins.pruned⟩), shelf) ∧
      result = .error (.file "plain" .alreadyExists)) ∧
    (render ⟨⟨some "out/scene.scad", true⟩, Scene.twins⟩
        (Edit.clear >>= fun _ => Edit.append .top ⟨9, 1⟩) : StateM Disk _).run shelf =
      ((.error (.edit (.unknownNode ⟨9, 1⟩)),
        ⟨⟨some "out/scene.scad", true⟩, { Scene.twins with top := [] }⟩), shelf) := by
  have top : Scene.twins.top = [⟨1, 1⟩] := by cbv
  have unfolds := List.Forall₂.cons Scene.unfolds_twins List.Forall₂.nil
  have acyclic : Scene.twins.IsAcyclic := Scene.isAcyclic_of_unfolds (top ▸ unfolds)
  refine ⟨?_, ?_, ?_⟩
  · obtain ⟨_, _, ends⟩ := render_and_commit ⟨⟨some "out/scene.scad", true⟩, Scene.twins⟩ shelf
    obtain ⟨result, after, run, _, committed⟩ := ends acyclic
    obtain ⟨rfl, answer⟩ := (committed.file "out/scene.scad" shelf rfl rfl).2 (.ok ())
      (shelf.put ["out", "scene.scad"] (.file Scene.twins.text)) rfl
    refine ⟨result, _, run, answer, ?_⟩
    obtain ⟨_, _, place, leads, holds⟩ := committed.receipt _ answer
    cases leads
    exact holds
  · obtain ⟨_, _, ends⟩ := render_and_commit ⟨⟨some "plain/scene.scad", true⟩, Scene.twins⟩ shelf
    obtain ⟨result, after, run, _, committed⟩ := ends acyclic
    obtain ⟨answer, rfl, _⟩ :=
      committed.directory "plain/scene.scad" "plain" .alreadyExists shelf rfl rfl rfl
    exact ⟨result, run, answer⟩
  · obtain ⟨fails, _, _⟩ := render_and_commit ⟨⟨some "out/scene.scad", true⟩, Scene.twins⟩ shelf
    exact fails _ _ _ rfl

end Workspace

end SolidScene

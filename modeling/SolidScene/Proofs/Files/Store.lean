/-
This file says what is relied on where files are part of a state: a file that was
written holds the text that was written and nothing of what it held before, and to
make directories changes no file. Nothing is said about a file that could not be
written, which may hold a part of the text. The disks that are values keep to this.

A path leads to a place, and the bytes are at the place and not at the path, since
two paths may lead to one file and a path may come to lead elsewhere. The first law
is about the place that the path leads to afterwards, so writing may also create the
place. For a disk, places are locations; the second half of the file follows a path
through the directories before and after a change and so proves both laws.
-/
import SolidScene.Files.Disk
import SolidScene.Proofs.Results

namespace SolidScene

/-- The files of a state: a path leads to a place or to none, and a place holds the bytes of a file
or none. -/
class FileStore (σ : Type) [FileAccess (StateM σ)] where
  /-- Where bytes can be. -/
  Place : Type
  /-- The place that a path leads to. -/
  place? : σ → String → Option Place
  /-- The bytes of the file at a place. -/
  bytesAt? : σ → Place → Option ByteArray
  /-- A file that was written holds the bytes of the text. -/
  bytesAt?_write : ∀ {files after : σ} {path text : String},
    (FileAccess.write path text : StateM σ _).run files = (.ok (), after) →
      ∃ place, place? after path = some place ∧ bytesAt? after place = some text.toUTF8
  /-- To make directories changes no file, whether it goes through or not. -/
  bytesAt?_makeDirectories : ∀ (files : σ) (path : String) (place : Place),
    bytesAt? ((FileAccess.makeDirectories path : StateM σ _).run files).2 place =
      bytesAt? files place

namespace Disk

/-! ### Places on a disk -/

/-- The location of the file that a path leads to, whether there is one or not. -/
def fileLocation? (disk : Disk) (path : String) : Option Location :=
  match disk.locate path with
  | .ok (directory, some name) =>
    if endsWithSeparator path then none else (below directory name).toOption
  | _ => none

/-- The bytes of the file at a location. -/
def bytesAt? (disk : Disk) (location : Location) : Option ByteArray :=
  match disk.item? location with
  | some (.file text) => some text.toUTF8
  | _ => none

theorem bytesAt?_put_directory {disk : Disk} {location : Location}
    (vacant : disk.item? location = none) (other : Location) :
    (disk.put location .directory).bytesAt? other = disk.bytesAt? other := by
  by_cases same : other = location
  · subst same
    have below : other ≠ [] := by
      rintro rfl
      exact absurd vacant (by simp [item?])
    rw [bytesAt?, bytesAt?, item?_put_self disk below, vacant]
  · rw [bytesAt?, bytesAt?, item?_put_of_ne disk same]

/-- Directories are made where nothing is. -/
theorem bytesAt?_makeBelow (disk : Disk) (start : Location) (names : List String)
    (location : Location) :
    (disk.makeBelow start names).2.bytesAt? location = disk.bytesAt? location := by
  induction names generalizing disk start with
  | nil => rfl
  | cons name rest inductionHypothesis =>
    rw [makeBelow]
    split
    case h_1 => rfl
    case h_2 next _ =>
      split
      case h_1 => exact inductionHypothesis disk next
      case h_2 => rfl
      case h_3 vacant =>
        rw [inductionHypothesis, bytesAt?_put_directory vacant]

/-- Making directories changes no file, also where it fails on the way. -/
theorem bytesAt?_makeDirectories (disk : Disk) (path : String) (location : Location) :
    (disk.makeDirectories path).2.bytesAt? location = disk.bytesAt? location := by
  rw [makeDirectories]
  split
  · rfl
  · split
    · rfl
    · exact bytesAt?_makeBelow disk [] _ location

/-- Where names lead through directories, they lead the same way after something was put where no
directory is. -/
theorem enter_put {disk : Disk} {location : Location} (item : DiskItem)
    (apart : disk.item? location ≠ some .directory) {start reached : Location}
    {names : List String} (entered : disk.enter start names = .ok reached) :
    (disk.put location item).enter start names = .ok reached := by
  induction names generalizing start with
  | nil => exact entered
  | cons name rest inductionHypothesis =>
    rw [enter] at entered ⊢
    obtain ⟨next, step, entered⟩ := bind_eq_ok_iff.mp entered
    refine bind_eq_ok_iff.mpr ⟨next, step, ?_⟩
    split at entered
    case h_1 found =>
      have other : next ≠ location := fun same => apart (same ▸ found)
      simp only [item?_put_of_ne disk other, found]
      exact inductionHypothesis entered
    case h_2 => exact absurd entered (throw_ne_ok _ _)
    case h_3 => exact absurd entered (throw_ne_ok _ _)

/-- A path that could be followed is followed alike after something was put where no directory is.
-/
theorem locate_put {disk : Disk} {location : Location} (item : DiskItem)
    (apart : disk.item? location ≠ some .directory) {path : String}
    {target : Location × Option String} (located : disk.locate path = .ok target) :
    (disk.put location item).locate path = .ok target := by
  have followed {names : List String} {name : Option String}
      (found : (disk.enter [] names).map (·, name) = .ok target) :
      ((disk.put location item).enter [] names).map (·, name) = .ok target := by
    obtain ⟨reached, entered, same⟩ := map_eq_ok_iff.mp found
    exact map_eq_ok_iff.mpr ⟨reached, enter_put item apart entered, same⟩
  rw [locate] at located ⊢
  split at located
  case h_1 fault bad => exact absurd located (by simp)
  case h_2 good =>
    split at located
    case isTrue points =>
      simp only [points, if_true]
      exact followed located
    case isFalse named =>
      simp only [named]
      exact followed located

/-- A text was written at a location where no directory is, and the path still leads there. -/
theorem exists_location_of_withText {disk after : Disk} {path text : String}
    (written : disk.withText path text = .ok after) :
    ∃ location, disk.item? location ≠ some .directory ∧
      after = disk.put location (.file text) ∧ after.fileLocation? path = some location := by
  obtain ⟨⟨directory, _ | name⟩, located, written⟩ := bind_eq_ok_iff.mp written
  · exact absurd written (throw_ne_ok _ _)
  · dsimp only at written
    split at written
    case isTrue => exact absurd written (throw_ne_ok _ _)
    case isFalse separated =>
      obtain ⟨location, step, written⟩ := bind_eq_ok_iff.mp written
      split at written
      case h_1 => exact absurd written (throw_ne_ok _ _)
      case h_2 apart =>
        cases written
        refine ⟨location, apart, rfl, ?_⟩
        rw [fileLocation?, locate_put (.file text) apart located]
        simp only [separated, step, Except.toOption]
        rfl

/-- A text that was written is at the location that the path leads to. -/
theorem bytesAt?_withText {disk after : Disk} {path text : String}
    (written : disk.withText path text = .ok after) :
    ∃ location, after.fileLocation? path = some location ∧
      after.bytesAt? location = some text.toUTF8 := by
  obtain ⟨location, apart, rfl, leads⟩ := exists_location_of_withText written
  have below : location ≠ [] := fun top => apart (top ▸ rfl)
  exact ⟨location, leads, by rw [bytesAt?, item?_put_self disk below]⟩

end Disk

instance : FileStore Disk where
  Place := Location
  place? := Disk.fileLocation?
  bytesAt? := Disk.bytesAt?
  bytesAt?_write {files after path text} written := by
    have run : (FileAccess.write path text : StateM Disk _).run files =
        match files.withText path text with
        | .ok disk => (.ok (), disk)
        | .error fault => (.error fault, files) := rfl
    rw [run] at written
    split at written
    case h_1 disk result =>
      cases written
      exact Disk.bytesAt?_withText result
    case h_2 => exact absurd (congrArg Prod.fst written) (by simp)
  bytesAt?_makeDirectories := Disk.bytesAt?_makeDirectories

end SolidScene

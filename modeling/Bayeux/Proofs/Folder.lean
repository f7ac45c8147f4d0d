import Bayeux.Folder
set_option autoImplicit false
namespace Bayeux.Folder

variable {a b folder : Folder} {name file : String}

theorem fromRoot_congr (path : a.path = b.path) (name : String) :
    a.fromRoot name = b.fromRoot name := by
  rw [fromRoot, fromRoot, path]

theorem lookup?_congr (path : a.path = b.path) (names : a.files.keys = b.files.keys)
    (steps : List String) : a.lookup? steps = b.lookup? steps := by
  simp only [lookup?, names, fromRoot_congr path]

theorem hasDirectory_congr (path : a.path = b.path) (names : a.files.keys = b.files.keys)
    (steps : List String) : a.hasDirectory steps = b.hasDirectory steps := by
  simp only [hasDirectory, names, path, fromRoot_congr path]

theorem follow_congr (path : a.path = b.path) (names : a.files.keys = b.files.keys)
    (done steps : List String) : a.follow done steps = b.follow done steps := by
  induction steps generalizing done with
  | nil => rfl
  | cons step steps ih =>
    simp only [follow, ih, hasDirectory_congr path names, lookup?_congr path names]

theorem find_congr (path : a.path = b.path) (names : a.files.keys = b.files.keys) (name : String) :
    a.find name = b.find name := by
  simp only [find, resolve, fromRoot_congr path, follow_congr path names, lookup?_congr path names,
    hasDirectory_congr path names]

theorem read_of_find (found : (folder.find name).toOption = some file) :
    folder.read name = .ok ((folder.files.get? file).getD "") := by
  cases find : folder.find name with
  | error e => simp [find, Except.toOption] at found
  | ok other =>
    obtain rfl : other = file := by simpa [find, Except.toOption] using found
    rw [read, find]
    rfl

theorem read_of_find_none (missing : (folder.find name).toOption = none) :
    ∃ e, folder.read name = .error e := by
  cases find : folder.find name with
  | error e =>
    rw [read, find]
    exact ⟨e, rfl⟩
  | ok other => simp [find, Except.toOption] at missing

end Bayeux.Folder

import GlyphMosaic.Files.Path
import GlyphMosaic.Host

/-!
# Files as a value

A file tree is a list of files with their places; a place is the list of the names that lead to it
from the root.  There is a directory wherever a file or the working directory needs one.  `Scene`
adds what was printed, and `Scene.host` lets a run take place in it.

* `FileTree.read?_of_write?` : what was written can be read.
* `FileTree.hasDirectory_of_write?`, `FileTree.walk?_of_write?` : writing takes no directory away,
  so that every path leads where it led before.
-/

namespace GlyphMosaic

/-- Files at their places. -/
structure FileTree where
  /-- The working directory. -/
  home : List String
  /-- The files; of two at one place the first counts. -/
  files : List (List String × ByteArray)

namespace FileTree

variable (t : FileTree)

/-- There is a directory at a place. -/
def hasDirectory (place : List String) : Bool :=
  place.isPrefixOf t.home
    || t.files.any fun file => place.isPrefixOf file.1 && place.length < file.1.length

/-- The place that some parts lead to.  All but the last name have to be those of directories. -/
def walk? : List String → (place : List String) → Option (List String)
  | [], place => some place
  | part :: rest, place =>
    if !t.hasDirectory place then none
    else if part = ".." then walk? rest place.dropLast
    else walk? rest (place ++ [part])

/-- The place that a path leads to. -/
def place? (path : String) : Option (List String) :=
  if !Path.isPossible path then none
  else t.walk? (Path.parts path) (if Path.isAbsolute path then [] else t.home)

/-- The bytes of a file. -/
def read? (path : String) : Option ByteArray := do
  let place ← t.place? path
  if Path.isDirectory path then none else t.files.lookup place

/-- There is a file or a directory at a path. -/
def present (path : String) : Bool :=
  (t.read? path).isSome || (t.place? path).any t.hasDirectory

/-- The tree with a file replaced.  Its directory has to be there, and itself it must not be one. -/
def write? (path : String) (content : ByteArray) : Option FileTree := do
  let place ← t.place? path
  if Path.isDirectory path || t.hasDirectory place then none
  else return { t with files := (place, content) :: t.files.filter (·.1 ≠ place) }

/-- The tree of some files below its working directory, with all the directories they need. -/
def ofFiles (home : List String) (files : List (String × ByteArray)) : FileTree :=
  ⟨home, files.map fun file => (home ++ Path.parts file.1, file.2)⟩

/-! ### Writing, then reading -/

variable {t}

/-- Directories stay. -/
theorem hasDirectory_of_write? {t' : FileTree} {path : String} {content : ByteArray}
    (h : t.write? path content = some t') {place : List String} (hp : t.hasDirectory place) :
    t'.hasDirectory place := by
  simp only [write?, Option.bind_eq_bind, Option.bind_eq_some_iff] at h
  obtain ⟨target, -, h⟩ := h
  split at h
  · simp at h
  · simp only [pure, Option.some.injEq] at h
    subst h
    simp only [hasDirectory, Bool.or_eq_true, List.any_eq_true, Bool.and_eq_true] at hp ⊢
    refine hp.imp_right fun ⟨file, hf, hfile⟩ => ?_
    by_cases he : file.1 = target
    · exact ⟨(target, content), List.mem_cons_self, he ▸ hfile⟩
    · exact ⟨file, List.mem_cons_of_mem _ (List.mem_filter.2 ⟨hf, by simpa using he⟩), hfile⟩

/-- Paths lead where they led before. -/
theorem walk?_of_write? {t' : FileTree} {path : String} {content : ByteArray}
    (h : t.write? path content = some t') {parts place target : List String}
    (hw : t.walk? parts place = some target) : t'.walk? parts place = some target := by
  induction parts generalizing place with
  | nil => exact hw
  | cons part rest ih =>
    rw [walk?] at hw ⊢
    cases hd : t.hasDirectory place with
    | false => simp [hd] at hw
    | true =>
      rw [hasDirectory_of_write? h hd]
      simp only [hd, Bool.not_true, Bool.false_eq_true, ↓reduceIte] at hw ⊢
      split at hw
      · rename_i hp; rw [if_pos hp]; exact ih hw
      · rename_i hp; rw [if_neg hp]; exact ih hw

/-- What was written can be read. -/
theorem read?_of_write? {t' : FileTree} {path : String} {content : ByteArray}
    (h : t.write? path content = some t') : t'.read? path = some content := by
  have h' := h
  simp only [write?, Option.bind_eq_bind, Option.bind_eq_some_iff] at h
  obtain ⟨target, hplace, h⟩ := h
  split at h
  · simp at h
  · rename_i hfile
    simp only [pure, Option.some.injEq] at h
    have hhome : t'.home = t.home := by rw [← h]
    have hfiles : t'.files.lookup target = some content := by rw [← h]; simp
    have hplace' : t'.place? path = some target := by
      simp only [place?, hhome] at hplace ⊢
      split at hplace
      · simp at hplace
      · rename_i he
        rw [if_neg he]
        exact walk?_of_write? h' hplace
    simp only [Bool.or_eq_true, not_or, Bool.not_eq_true] at hfile
    simp only [read?, hplace', hfile.1, Option.bind_eq_bind, Option.bind_some, Bool.false_eq_true,
      ↓reduceIte, hfiles]

end FileTree

/-- Files, and what was printed. -/
structure Scene where
  /-- The files. -/
  tree : FileTree
  /-- What was printed to the output. -/
  output : ByteArray := .empty
  /-- What was printed beside it. -/
  remarks : String := ""

namespace Scene

/-- The surroundings that a scene offers, with the clocks of a stopwatch. -/
def host (watch : Stopwatch Id) : Host (StateM Scene) where
  present path := return (← get).tree.present path
  read? path := return (← get).tree.read? path
  write path content := do
    let scene ← get
    match scene.tree.write? path content with
    | some tree =>
      set { scene with tree }
      return true
    | none => return false
  print bytes := modify fun scene => { scene with output := scene.output ++ bytes }
  remark text := modify fun scene => { scene with remarks := scene.remarks ++ text }
  watch := ⟨fun work => return watch.timed work⟩

end Scene

end GlyphMosaic

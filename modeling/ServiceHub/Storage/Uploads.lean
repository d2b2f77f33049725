/-
# `Storage.Uploads` — a file is found where it was put

`uploadFile` keeps a file under a new id and what is left of its name, and answers
a URL; `getFilePath` leads from the URL to the file again (`getFilePath_uploadUrl`),
and `deleteFile` takes it away.

| the folder's last name | what becomes of the upload |
| :-- | :-- |
| `..` | it is refused |
| none, as in `/` | the URL does not lead to the file |
| any other | the URL leads to the file |

So whatever is uploaded afterwards, or deleted elsewhere, the URL leads to what
was uploaded (`uploaded_kept`).  Directories, and the failures of the file system,
which every function passes on, are left out.
-/
import ServiceHub.Storage.LocalStorage
import Mathlib.Logic.Function.Basic

namespace ServiceHub.Storage

open Data Data.PosixPath

/-- What is in the files, by their paths. -/
abbrev Disk : Type := String → Option (List UInt8)

/-- `Express.Multer.File`. -/
structure UploadedFile where
  originalname : String
  buffer : List UInt8

/-- What `/[^a-zA-Z0-9._-]/` does not match. -/
def isSafe (c : Char) : Bool := c.isAlphanum || c == '.' || c == '_' || c == '-'

/-- A character beyond the sixteen bits of a code unit is two of them. -/
def sanitized (c : Char) : List Char :=
  if isSafe c then [c] else if c.toNat < 0x10000 then ['_'] else ['_', '_']

def filename (uuid originalname : String) : Name :=
  uuid.toList ++ '-' :: (basename originalname.toList).flatMap sanitized

def uploadDir (cwd : AbsPath) (folder : String) : List Name :=
  resolve (uploadRoot cwd) (basename folder.toList)

def uploadPath (cwd : AbsPath) (uuid originalname folder : String) : String :=
  .ofList (render (join (uploadDir cwd folder) (filename uuid originalname)))

def uploadUrl (uuid originalname folder : String) : String :=
  .ofList ("/uploads/".toList ++ (basename folder.toList ++ '/' :: filename uuid originalname))

def invalidFolder : Exn := .badRequest "Invalid upload folder path"

/-- The URL, and the disk with the file. -/
def uploadFile (cwd : AbsPath) (uuid : String) (file : UploadedFile) (folder : String)
    (disk : Disk) : Except Exn (String × Disk) :=
  if render (uploadRoot cwd) <+: render (uploadDir cwd folder) then
    .ok (uploadUrl uuid file.originalname folder,
      Function.update disk (uploadPath cwd uuid file.originalname folder) (some file.buffer))
  else .error invalidFolder

/-- A file that is not there is deleted, too. -/
def deleteFile (cwd : AbsPath) (fileUrl : String) (disk : Disk) : Except Exn Disk := do
  let filePath ← getFilePath cwd fileUrl
  pure (Function.update disk filePath none)

/-! ## The folder and the name -/

theorem slash_not_mem_filename {uuid : String} (huuid : '/' ∉ uuid.toList) (originalname : String) :
    '/' ∉ filename uuid originalname := by
  intro hslash
  rcases List.mem_append.mp hslash with hslash | hslash
  · exact huuid hslash
  · rcases List.mem_cons.mp hslash with hslash | hslash
    · cases hslash
    · obtain ⟨c, _, hc⟩ := List.mem_flatMap.mp hslash
      rw [sanitized] at hc
      split at hc
      · rename_i hsafe
        obtain rfl := List.mem_singleton.mp hc
        exact absurd hsafe (by decide)
      · split at hc <;> simp at hc

/-- The name is not one that leads elsewhere, for it has a `-`. -/
theorem proper_filename (uuid originalname : String) : Proper (filename uuid originalname) := by
  have hmem : '-' ∈ filename uuid originalname :=
    List.mem_append_right _ List.mem_cons_self
  refine ⟨?_, ?_, ?_⟩ <;> intro hname <;> rw [hname] at hmem <;> revert hmem <;> decide

theorem uploadDir_eq (cwd : AbsPath) (folder : String) :
    uploadDir cwd folder = step (uploadRoot cwd) (basename folder.toList) :=
  resolve_name _ (slash_not_mem_basename _)

/-- A folder leads nowhere but down, unless it is the directory above. -/
theorem uploadDir_cases (cwd : AbsPath) (folder : String) :
    (basename folder.toList = ['.', '.'] ∧ uploadDir cwd folder = cwd.names) ∨
      basename folder.toList ≠ ['.', '.'] ∧
        ∃ rest, uploadDir cwd folder = cwd.names ++ uploads :: rest := by
  rw [uploadDir_eq, uploadRoot_eq, step]
  split
  · rename_i hstay
    refine Or.inr ⟨fun hup => ?_, [], rfl⟩
    rcases hstay with hstay | hstay <;> cases hup.symm.trans hstay
  · split
    · rename_i hup
      exact Or.inl ⟨hup, List.dropLast_concat⟩
    · rename_i hup
      exact Or.inr ⟨hup, [basename folder.toList], List.append_assoc _ _ _⟩

theorem length_render_le (names : List Name) : (render names).length ≤ (flat names).length + 1 := by
  rw [render]
  split
  · simp
  · exact Nat.le_succ _

/-- An upload is refused for the directory above, and for no other. -/
theorem uploadFile_ok_iff (cwd : AbsPath) (folder : String) :
    render (uploadRoot cwd) <+: render (uploadDir cwd folder) ↔
      basename folder.toList ≠ ['.', '.'] := by
  rcases uploadDir_cases cwd folder with ⟨hup, hdir⟩ | ⟨hup, rest, hdir⟩
  · refine ⟨fun hprefix => ?_, fun hne => absurd hup hne⟩
    have hlength := hprefix.length_le
    have hle := length_render_le cwd.names
    rw [hdir, render_uploadRoot, flat_concat, List.length_append, List.length_cons,
      length_uploads] at hlength
    omega
  · refine ⟨fun _ => hup, fun _ => ?_⟩
    have hlonger := flat_longer cwd.names rest uploads []
    rw [List.append_nil] at hlonger
    rw [render_uploadRoot, hdir, render, if_neg (by simp), hlonger]
    exact List.prefix_append _ _

theorem relativePath_of_uploads {fileUrl : String} {rest : List Char}
    (h : fileUrl.toList = "/uploads/".toList ++ rest) : relativePath fileUrl = rest := by
  have hprefix : "/uploads/".toList <+: fileUrl.toList := ⟨rest, h.symm⟩
  have hlength : "/uploads/".toList.length = 9 := by decide
  rw [relativePath, if_pos hprefix, h]
  exact List.drop_left' hlength

section
variable {cwd : AbsPath} {uuid : String} (huuid : '/' ∉ uuid.toList)
include huuid

theorem uploadPath_toList (originalname folder : String) :
    (uploadPath cwd uuid originalname folder).toList =
      flat (uploadDir cwd folder ++ [filename uuid originalname]) := by
  have hjoin : join (uploadDir cwd folder) (filename uuid originalname) =
      uploadDir cwd folder ++ [filename uuid originalname] := by
    rw [join_name _ (slash_not_mem_filename huuid originalname)]
    exact step_proper (proper_filename uuid originalname)
  rw [uploadPath, String.toList_ofList, hjoin, render, if_neg (by simp)]

/-- Uploads of one length of ids never meet. -/
theorem uuid_of_uploadPath {uuid' : String} (huuid' : '/' ∉ uuid'.toList)
    (hlength : uuid'.length = uuid.length) {originalname folder originalname' folder' : String}
    (h : uploadPath cwd uuid' originalname' folder' = uploadPath cwd uuid originalname folder) :
    uuid' = uuid := by
  have hpaths := congrArg String.toList h
  rw [uploadPath_toList huuid', uploadPath_toList huuid] at hpaths
  have hnames := flat_concat_injective (slash_not_mem_filename huuid' originalname')
    (slash_not_mem_filename huuid originalname) hpaths
  exact String.toList_injective (List.append_inj hnames (by simp only [String.length_toList, hlength])).1

/-! ## Back from the URL -/

omit huuid in
theorem relativePath_uploadUrl (originalname folder : String) :
    relativePath (uploadUrl uuid originalname folder) =
      basename folder.toList ++ '/' :: filename uuid originalname :=
  relativePath_of_uploads String.toList_ofList

theorem resolved_uploadUrl (originalname folder : String) :
    resolved cwd (uploadUrl uuid originalname folder) =
      if basename folder.toList = [] then [filename uuid originalname]
      else uploadDir cwd folder ++ [filename uuid originalname] := by
  have hname := slash_not_mem_filename huuid originalname
  have hbase := slash_not_mem_basename folder.toList
  have hproper := proper_filename uuid originalname
  have hsplit : (basename folder.toList ++ '/' :: filename uuid originalname).splitOn '/' =
      [basename folder.toList, filename uuid originalname] := by
    rw [List.splitOn_append_cons_self_of_not_mem hbase, List.splitOn_eq_singleton hname]
  have hwalk : ∀ dir, walk dir [basename folder.toList, filename uuid originalname] =
      step dir (basename folder.toList) ++ [filename uuid originalname] := fun dir =>
    step_proper hproper
  rw [resolved, resolve, relativePath_uploadUrl, hsplit, hwalk]
  split
  · -- the rest of the URL begins with `/`, and is taken for a path from the root
    rename_i hnil
    rw [hnil]
    rfl
  · rename_i hne
    have hstart : start (uploadRoot cwd) (basename folder.toList ++ '/' :: filename uuid originalname) =
        uploadRoot cwd := by
      refine if_neg fun hhead => hbase ?_
      rw [List.head?_append_of_ne_nil _ hne] at hhead
      exact List.mem_of_mem_head? hhead
    rw [hstart, uploadDir_eq]

/-- The URL leads to the file, unless the folder has no name. -/
theorem getFilePath_uploadUrl {folder : String} (hup : basename folder.toList ≠ ['.', '.'])
    (originalname : String) :
    getFilePath cwd (uploadUrl uuid originalname folder) =
      .ok (uploadPath cwd uuid originalname folder) ↔ basename folder.toList ≠ [] := by
  have hpath : (uploadPath cwd uuid originalname folder).toList =
      flat (uploadDir cwd folder ++ [filename uuid originalname]) :=
    uploadPath_toList huuid originalname folder
  rcases uploadDir_cases cwd folder with ⟨hup', _⟩ | ⟨_, rest, hdir⟩
  · exact absurd hup' hup
  constructor
  · intro hfound hnil
    obtain ⟨_, _, _, htext⟩ := resolved_of_ok hfound
    rw [hpath, resolved_uploadUrl huuid, if_pos hnil, hdir] at htext
    have hlength := congrArg List.length htext
    simp only [flat_append, flat_cons, List.length_append, List.length_cons,
      length_uploads] at hlength
    simp [flat] at hlength
  · intro hne
    have hresolved : resolved cwd (uploadUrl uuid originalname folder) =
        cwd.names ++ (uploads ++ []) :: (rest ++ [filename uuid originalname]) := by
      rw [resolved_uploadUrl huuid, if_neg hne, hdir, List.append_assoc, List.append_nil]
      rfl
    rw [getFilePath_ok hresolved, resolved_uploadUrl huuid, if_neg hne, ← hpath,
      String.ofList_toList]

end

/-! ## Any number of files -/

inductive FileOp where
  | upload (uuid : String) (file : UploadedFile) (folder : String)
  | delete (fileUrl : String)

def served (disk : Disk) {α : Type} (after : α → Disk) : Except Exn α → Disk
  | .ok a => after a
  | .error _ => disk

def serve (cwd : AbsPath) (disk : Disk) : FileOp → Disk
  | .upload uuid file folder => served disk Prod.snd (uploadFile cwd uuid file folder disk)
  | .delete fileUrl => served disk id (deleteFile cwd fileUrl disk)

/-- Another id, or the URL of another file. -/
def Spares (cwd : AbsPath) (uuid path : String) : FileOp → Prop
  | .upload uuid' _ _ => '/' ∉ uuid'.toList ∧ uuid'.length = uuid.length ∧ uuid' ≠ uuid
  | .delete fileUrl => getFilePath cwd fileUrl ≠ .ok path

/-- A file is not touched by what spares it. -/
theorem serve_spares {cwd : AbsPath} {uuid originalname folder : String} {disk : Disk} {o : FileOp}
    (huuid : '/' ∉ uuid.toList) (ho : Spares cwd uuid (uploadPath cwd uuid originalname folder) o) :
    serve cwd disk o (uploadPath cwd uuid originalname folder) =
      disk (uploadPath cwd uuid originalname folder) := by
  cases o with
  | upload uuid' file folder' =>
      obtain ⟨huuid', hlength, hne⟩ := ho
      rw [serve, uploadFile]
      split
      · refine Function.update_of_ne (fun hpath => hne ?_) _ _
        exact uuid_of_uploadPath huuid huuid' hlength hpath.symm
      · rfl
  | delete fileUrl =>
      rw [serve, deleteFile]
      cases hpath : getFilePath cwd fileUrl with
      | error e => rfl
      | ok path =>
          refine Function.update_of_ne (fun hsame => ho ?_) _ _
          rw [hpath, hsame]

theorem foldl_serve_spares {cwd : AbsPath} {uuid originalname folder : String}
    (huuid : '/' ∉ uuid.toList) (ops : List FileOp) (disk : Disk)
    (hops : ∀ o ∈ ops, Spares cwd uuid (uploadPath cwd uuid originalname folder) o) :
    ops.foldl (serve cwd) disk (uploadPath cwd uuid originalname folder) =
      disk (uploadPath cwd uuid originalname folder) := by
  induction ops generalizing disk with
  | nil => rfl
  | cons o ops ih =>
      rw [List.foldl_cons, ih _ fun o ho => hops o (List.mem_cons_of_mem _ ho)]
      exact serve_spares huuid (hops o List.mem_cons_self)

/-- **A file is kept where it was put**, in the upload folder, and found under the
URL that was answered. -/
theorem uploaded_kept (cwd : AbsPath) (uuid : String) (file : UploadedFile) (folder url : String)
    (disk disk' : Disk) (ops : List FileOp) (huuid : '/' ∉ uuid.toList)
    (hupload : uploadFile cwd uuid file folder disk = .ok (url, disk'))
    (hops : ∀ o ∈ ops, Spares cwd uuid (uploadPath cwd uuid file.originalname folder) o) :
    (getFilePath cwd url = .ok (uploadPath cwd uuid file.originalname folder) ↔
      basename folder.toList ≠ []) ∧
    (∃ names, names ≠ [] ∧ (uploadPath cwd uuid file.originalname folder).toList =
      flat (cwd.names ++ uploads :: names)) ∧
    ops.foldl (serve cwd) disk' (uploadPath cwd uuid file.originalname folder) =
      some file.buffer := by
  rw [uploadFile] at hupload
  split at hupload
  · rename_i hprefix
    cases hupload
    have hup := (uploadFile_ok_iff cwd folder).mp hprefix
    refine ⟨getFilePath_uploadUrl huuid hup _, ?_, ?_⟩
    · rcases uploadDir_cases cwd folder with ⟨hup', _⟩ | ⟨_, rest, hdir⟩
      · exact absurd hup' hup
      · refine ⟨rest ++ [filename uuid file.originalname], by simp, ?_⟩
        rw [uploadPath_toList huuid, hdir, List.append_assoc]
        rfl
    · rw [foldl_serve_spares huuid ops _ hops, Function.update_self]
  · cases hupload

namespace Sample

def cwd : AbsPath := ⟨["app".toList], by decide⟩

def first : String := "3f0e8c1a-52d4-4b7e-9a60-1c2d3e4f5a6b"

def second : String := "7a9b6c5d-4e3f-4201-8b7a-6c5d4e3f2a1b"

def taxReturn : UploadedFile := ⟨"../my tax return.pdf", [1, 2, 3]⟩

/-- An upload of a file of the same name, which is deleted again. -/
def later : List FileOp :=
  [.upload second taxReturn "documents", .delete (uploadUrl second taxReturn.originalname "documents")]

end Sample

theorem uploaded_kept_sample : ∃ (url : String) (disk' : Disk),
    uploadFile Sample.cwd Sample.first Sample.taxReturn "documents" (fun _ => none) = .ok (url, disk') ∧
    (getFilePath Sample.cwd url = .ok (uploadPath Sample.cwd Sample.first
      Sample.taxReturn.originalname "documents") ↔ basename "documents".toList ≠ []) ∧
    (∃ names, names ≠ [] ∧ (uploadPath Sample.cwd Sample.first Sample.taxReturn.originalname
      "documents").toList = flat (Sample.cwd.names ++ uploads :: names)) ∧
    Sample.later.foldl (serve Sample.cwd) disk' (uploadPath Sample.cwd Sample.first
      Sample.taxReturn.originalname "documents") = some Sample.taxReturn.buffer := by
  have hupload : uploadFile Sample.cwd Sample.first Sample.taxReturn "documents" (fun _ => none) =
      .ok _ := if_pos ((uploadFile_ok_iff _ _).mpr (by decide +kernel))
  refine ⟨_, _, hupload, uploaded_kept Sample.cwd Sample.first Sample.taxReturn "documents" _ _ _
    Sample.later (by decide +kernel) hupload ?_⟩
  intro o ho
  rcases List.mem_cons.mp ho with rfl | ho
  · exact ⟨by decide +kernel, by decide +kernel, by decide +kernel⟩
  · cases List.mem_singleton.mp ho
    show getFilePath _ _ ≠ _
    decide +kernel

/-- A folder without a name: the URL does not lead to the file. -/
example : getFilePath Sample.cwd (uploadUrl Sample.first "tax.pdf" "/") = .error traversal := by
  decide +kernel

end ServiceHub.Storage

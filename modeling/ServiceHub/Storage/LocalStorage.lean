/-
# `Storage.LocalStorage` — where the path of a stored file leads

`LocalStorageService.getFilePath` resolves the URL of a file, less a leading
`/uploads/`, from the upload folder, and refuses what does not begin with the
text of the folder.

**What fails.**  `/app/uploads-old/x` begins with `/app/uploads` and lies beside
it.  A URL leads there if it goes up to the directory of the folder, or names it
from the root, and then down into a longer name (`EntersSibling`); every other
URL is refused or leads into the folder (`contained_iff`).
-/
import ServiceHub.Data.PosixPath
import ServiceHub.Database

namespace ServiceHub.Storage

open Data Data.PosixPath

def uploads : Name := "uploads".toList

/-- `path.resolve(process.cwd(), "uploads")`. -/
def uploadRoot (cwd : AbsPath) : List Name := resolve cwd.names uploads

/-- `fileUrl.replace(/^\/uploads\//, "")`. -/
def relativePath (fileUrl : String) : List Char :=
  if "/uploads/".toList <+: fileUrl.toList then fileUrl.toList.drop 9 else fileUrl.toList

/-- `path.resolve(this.uploadRoot, relativePath)`. -/
def resolved (cwd : AbsPath) (fileUrl : String) : List Name :=
  resolve (uploadRoot cwd) (relativePath fileUrl)

def traversal : Exn := .badRequest "Invalid file path: path traversal detected"

def getFilePath (cwd : AbsPath) (fileUrl : String) : Except Exn String :=
  let resolvedPath := render (resolved cwd fileUrl)
  if render (uploadRoot cwd) <+: resolvedPath then .ok (.ofList resolvedPath)
  else .error traversal

/-! ## The folder -/

theorem uploadRoot_eq (cwd : AbsPath) : uploadRoot cwd = cwd.names ++ [uploads] := by
  have hsplit : uploads.splitOn '/' = [uploads] := by decide
  rw [uploadRoot, resolve, hsplit]
  rfl

theorem render_uploadRoot (cwd : AbsPath) :
    render (uploadRoot cwd) = flat (cwd.names ++ [uploads]) := by
  rw [uploadRoot_eq, render, if_neg (by simp)]

theorem slash_not_mem_uploads : '/' ∉ uploads := by decide

theorem length_uploads : uploads.length = 7 := by decide

theorem slash_not_mem_resolved (cwd : AbsPath) (fileUrl : String) :
    ∀ n ∈ resolved cwd fileUrl, '/' ∉ n := by
  refine slash_not_mem_walk ?_ ?_
  · intro n hn
    rw [start, uploadRoot_eq] at hn
    split at hn
    · cases hn
    · rcases List.mem_append.mp hn with hn | hn
      · exact cwd.slash_not_mem n hn
      · rw [List.mem_singleton.mp hn]
        exact slash_not_mem_uploads
  · intro s hs
    exact slash_not_mem_split hs

/-- A path that is not refused is the folder, or goes on with the rest of a
longer name or with names below. -/
theorem resolved_of_ok {cwd : AbsPath} {fileUrl p : String} (h : getFilePath cwd fileUrl = .ok p) :
    ∃ x rest, resolved cwd fileUrl = cwd.names ++ (uploads ++ x) :: rest ∧
      p.toList = flat (resolved cwd fileUrl) := by
  rw [getFilePath] at h
  split at h
  · rename_i hprefix
    have hp : p = .ofList (render (resolved cwd fileUrl)) := (Except.ok.inj h).symm
    rw [render_uploadRoot] at hprefix
    have hne : resolved cwd fileUrl ≠ [] := by
      intro hnil
      rw [hnil, flat_concat] at hprefix
      have hlength := hprefix.length_le
      rw [List.length_append, List.length_cons, length_uploads] at hlength
      have hroot : (render []).length = 1 := rfl
      omega
    have hrender : render (resolved cwd fileUrl) = flat (resolved cwd fileUrl) := if_neg hne
    rw [hrender] at hprefix
    obtain ⟨x, rest, hnames⟩ := longer_of_prefix cwd.slash_not_mem slash_not_mem_uploads
      (slash_not_mem_resolved cwd fileUrl) hprefix
    exact ⟨x, rest, hnames, by rw [hp, String.toList_ofList, hrender]⟩
  · cases h

theorem getFilePath_ok {cwd : AbsPath} {fileUrl : String} {x : Name} {rest : List Name}
    (h : resolved cwd fileUrl = cwd.names ++ (uploads ++ x) :: rest) :
    getFilePath cwd fileUrl = .ok (.ofList (flat (resolved cwd fileUrl))) := by
  have hrender : render (resolved cwd fileUrl) = flat (resolved cwd fileUrl) := by
    rw [render, if_neg]
    rw [h]
    simp
  rw [getFilePath, hrender, if_pos]
  rw [render_uploadRoot, h, flat_longer]
  exact ⟨_, rfl⟩

/-! ## Beside the folder -/

/-- The URL leads to the directory of the upload folder and from there, for
good, into one of which the name begins with that of the folder and is longer. -/
def EntersSibling (cwd : AbsPath) (fileUrl : String) : Prop :=
  ∃ before name after, (relativePath fileUrl).splitOn '/' = before ++ name :: after ∧
    walk (start (uploadRoot cwd) (relativePath fileUrl)) before = cwd.names ∧
    uploads <+: name ∧ name ≠ uploads ∧ (descend [] after).isSome

theorem resolved_of_enters {cwd : AbsPath} {fileUrl : String} (h : EntersSibling cwd fileUrl) :
    ∃ x rest, x ≠ [] ∧ resolved cwd fileUrl = cwd.names ++ (uploads ++ x) :: rest := by
  obtain ⟨before, name, after, hsplit, hbefore, ⟨x, rfl⟩, hne, hafter⟩ := h
  obtain ⟨rest, hrest⟩ := Option.isSome_iff_exists.mp hafter
  refine ⟨x, rest, fun hx => hne (by rw [hx, List.append_nil]), ?_⟩
  have hlong : ∀ n : Name, n.length < 7 → uploads ++ x ≠ n := by
    rintro n hn rfl
    rw [List.length_append, length_uploads] at hn
    omega
  have hproper : Proper (uploads ++ x) :=
    ⟨hlong [] (by decide), hlong ['.'] (by decide), hlong ['.', '.'] (by decide)⟩
  rw [resolved, resolve, hsplit]
  exact walk_of_entered hproper hbefore hrest

theorem enters_of_resolved {cwd : AbsPath} {fileUrl : String} {x : Name} {rest : List Name}
    (hx : x ≠ []) (h : resolved cwd fileUrl = cwd.names ++ (uploads ++ x) :: rest) :
    EntersSibling cwd fileUrl := by
  have hlonger : uploads ++ x ≠ uploads := fun hname =>
    hx (List.self_eq_append_right.mp hname.symm)
  have hstart : ∀ r, start (uploadRoot cwd) (relativePath fileUrl) ≠
      cwd.names ++ (uploads ++ x) :: r := by
    intro r hr
    rw [start, uploadRoot_eq] at hr
    split at hr
    · exact absurd (List.append_eq_nil_iff.mp hr.symm).2 (List.cons_ne_nil _ _)
    · exact hlonger (List.cons.inj (List.append_cancel_left hr)).1.symm
  obtain ⟨before, after, hsplit, hbefore, hafter⟩ := entered_of_walk hstart h
  exact ⟨before, _, after, hsplit, hbefore, ⟨x, rfl⟩, hlonger, by rw [hafter]; rfl⟩

/-! ## Paths stay in the folder -/

/-- The URL is refused, or its path is the folder or begins with the folder and
a separator. -/
def Contained (cwd : AbsPath) (fileUrl : String) : Prop :=
  ∀ p, getFilePath cwd fileUrl = .ok p →
    p.toList = render (uploadRoot cwd) ∨ render (uploadRoot cwd) ++ ['/'] <+: p.toList

theorem contained_iff (cwd : AbsPath) (fileUrl : String) :
    Contained cwd fileUrl ↔ ¬ EntersSibling cwd fileUrl := by
  have hslash : ∀ {x : Name} {rest}, resolved cwd fileUrl = cwd.names ++ (uploads ++ x) :: rest →
      '/' ∉ x := by
    intro x rest hnames hx
    refine slash_not_mem_resolved cwd fileUrl (uploads ++ x) ?_ (List.mem_append_right uploads hx)
    rw [hnames]
    exact List.mem_append_right _ List.mem_cons_self
  constructor
  · intro h henters
    obtain ⟨x, rest, hx, hnames⟩ := resolved_of_enters henters
    have hcontained := h _ (getFilePath_ok hnames)
    rw [String.toList_ofList, render_uploadRoot, hnames] at hcontained
    exact hx ((below_iff (hslash hnames)).mp hcontained)
  · intro h p hp
    obtain ⟨x, rest, hnames, htext⟩ := resolved_of_ok hp
    have hx : x = [] := by
      by_contra hx
      exact h (enters_of_resolved hx hnames)
    rw [htext, render_uploadRoot, hnames]
    exact (below_iff (hslash hnames)).mpr hx

/-- Up from the folder, and down into its neighbour. -/
theorem not_contained :
    getFilePath ⟨["app".toList], by decide⟩ "/uploads/../uploads-old/tax.pdf" =
        .ok "/app/uploads-old/tax.pdf" ∧
      ¬ Contained ⟨["app".toList], by decide⟩ "/uploads/../uploads-old/tax.pdf" := by
  have hpath : getFilePath ⟨["app".toList], by decide⟩ "/uploads/../uploads-old/tax.pdf" =
      .ok "/app/uploads-old/tax.pdf" := by decide +kernel
  refine ⟨hpath, ?_⟩
  intro h
  exact absurd (h _ hpath) (by decide +kernel)

end ServiceHub.Storage

/-
# `Providers.Documents` — a document is for its owner and for administrators

`uploadDocument` stores the file, and then a row with its URL and the profile of
the user.  `getDocumentFileForUser` reads the row and the profile, says who may
have the file, and leads from the URL to its path.  Neither the URL nor the profile
is written again (`Row.fixed`), and the profile stays that of its user; so whoever
asks, and whenever, it is the user who uploaded the file that is let in, and the
path is that under which the file was stored (`documents_served`).
-/
import ServiceHub.Providers.Authority
import ServiceHub.Storage.Uploads

namespace ServiceHub.Providers

open Data Txn Data.PosixPath Storage

structure DocumentFile where
  filePath : String
  mimeType : String

def mimeMap : List (List Char × String) :=
  [(".pdf".toList, "application/pdf"), (".png".toList, "image/png"), (".jpg".toList, "image/jpeg"),
    (".jpeg".toList, "image/jpeg")]

/-- `mimeMap[ext]`, or what stands for any file.  Only the letters A to Z have a
lower case that is in a key. -/
def mimeType (filePath : String) : String :=
  (mimeMap.lookup ((extname filePath.toList).map Char.toLower)).getD "application/octet-stream"

def documentNotFound (documentId : Uuid) : Exn :=
  .notFound ("Document \"" ++ documentId ++ "\" not found")

def noPermission : Exn := .forbidden "You do not have permission to access this document"

/-- The document is read in `db`, the profile later in `db'`. -/
def getDocumentFileForUser (cwd : AbsPath) (db db' : Db) (documentId userId : Uuid) (role : Role) :
    Except Exn DocumentFile := do
  match db.documents.find? documentId with
  | none => .error (documentNotFound documentId)
  | some doc =>
      if role ≠ .admin ∧ (db'.providers.find? doc.providerId).all (·.userId != userId) = true then
        .error noPermission
      else do
        let filePath ← getFilePath cwd doc.fileUrl
        pure ⟨filePath, mimeType filePath⟩

section
variable {js : Builtins} {db : Db} {Ok : System → Event Op Exn → Prop} {c : System}

/-- **A new document is an upload** of the user of its profile. -/
theorem uploaded_of_run (hrun : Run (program js) Ok ⟨db, []⟩ c) {id : Uuid}
    (hnew : db.documents.find? id = none) : ∀ {d : ProviderDocument},
    c.db.documents.find? id = some d →
    ∃ P ∈ c.procs, ∃ now documentType p,
      P.op = .uploadDocument id now p.userId documentType (.ok d.fileUrl) ∧
      c.db.providers.find? d.providerId = some p := by
  induction hrun with
  | start =>
      intro d hd
      cases hnew.symm.trans hd
  | @step c c' e hrun hok hn ih =>
      intro d hd
      have hstep : Run (program js) Ok c c' := .step .start hok hn
      -- the call that has uploaded it goes on, and its user keeps the profile
      have hgoes : ∀ {d₀ : ProviderDocument}, c.db.documents.find? id = some d₀ →
          d.fileUrl = d₀.fileUrl → d.providerId = d₀.providerId →
          ∃ P ∈ c'.procs, ∃ now documentType p,
            P.op = .uploadDocument id now p.userId documentType (.ok d.fileUrl) ∧
            c'.db.providers.find? d.providerId = some p := by
        intro d₀ hd₀ hurl hprovider
        obtain ⟨P, hP, now, documentType, p, hop, hp⟩ := ih hd₀
        obtain ⟨P', hP', hop'⟩ := op_of_next hn hP
        obtain ⟨q, hq, hsame⟩ := provider_of_run hrun hstep hp
        refine ⟨P', hP', now, documentType, q, ?_, hprovider ▸ hq⟩
        rw [hop', hop, hsame, hurl]
      by_cases hsame : c.db.documents.find? id = some d
      · exact hgoes hsame rfl rfl
      · obtain ⟨n, P, _, hP, hauthority⟩ := document_of_next hrun hn hd hsame
        obtain ⟨P', hP', hop'⟩ := op_of_next hn (List.mem_of_getElem? hP)
        cases hold : c.db.documents.find? id with
        | none =>
            rw [hold] at hauthority
            cases hauthority with
            | @uploaded id' now documentType fileUrl p hop hp =>
                obtain rfl : id' = id := Table.key_of_find? hd
                obtain ⟨q, hq, hsame⟩ := provider_of_run hrun hstep hp
                refine ⟨P', hP', now, documentType, q, ?_, hq⟩
                rw [hop', hop, hsame]
                rfl
        | some d₀ =>
            rw [hold] at hauthority
            cases hauthority with
            | decided hmarks => exact hgoes hold rfl rfl

end

/-- The URL is what `uploadFile` has answered for the file. -/
def Stored (cwd : AbsPath) (fileUrl uuid : String) (file : UploadedFile) : Prop :=
  '/' ∉ uuid.toList ∧ ∃ disk disk', uploadFile cwd uuid file "documents" disk = .ok (fileUrl, disk')

theorem documents_named : basename "documents".toList ≠ [] ∧
    basename "documents".toList ≠ ['.', '.'] := by decide +kernel

theorem getFilePath_of_stored {cwd : AbsPath} {fileUrl uuid : String} {file : UploadedFile}
    (h : Stored cwd fileUrl uuid file) :
    getFilePath cwd fileUrl = .ok (uploadPath cwd uuid file.originalname "documents") := by
  obtain ⟨huuid, disk, disk', hupload⟩ := h
  rw [uploadFile] at hupload
  split at hupload
  · cases hupload
    exact (getFilePath_uploadUrl huuid documents_named.2 _).mpr documents_named.1
  · cases hupload

/-- **A document is served** to the user who has uploaded it and to administrators,
from the path where it was put, and to nobody else. -/
theorem documents_served (js : Builtins) (cwd : AbsPath) (db : Db) (c c₁ c₂ : System) (id : Uuid)
    (d : ProviderDocument) (hrun : Run (program js) (fun _ _ => True) ⟨db, []⟩ c)
    (hrun₁ : Run (program js) (fun _ _ => True) c c₁)
    (hrun₂ : Run (program js) (fun _ _ => True) c₁ c₂)
    (hnew : db.documents.find? id = none) (hd : c.db.documents.find? id = some d)
    (hstored : ∀ P ∈ c.procs, ∀ id now userId documentType fileUrl,
      P.op = .uploadDocument id now userId documentType (.ok fileUrl) →
        ∃ uuid file, Stored cwd fileUrl uuid file) :
    ∃ P ∈ c.procs, ∃ now owner documentType fileUrl uuid file,
      P.op = .uploadDocument id now owner documentType (.ok fileUrl) ∧
      Stored cwd fileUrl uuid file ∧
      ∀ userId role, getDocumentFileForUser cwd c₁.db c₂.db id userId role =
        if role = .admin ∨ userId = owner then
          .ok ⟨uploadPath cwd uuid file.originalname "documents",
            mimeType (uploadPath cwd uuid file.originalname "documents")⟩
        else .error noPermission := by
  obtain ⟨P, hP, now, documentType, p, hop, hp⟩ := uploaded_of_run hrun hnew hd
  obtain ⟨uuid, file, hfile⟩ := hstored P hP _ _ _ _ _ hop
  refine ⟨P, hP, now, p.userId, documentType, d.fileUrl, uuid, file, hop, hfile, ?_⟩
  intro userId role
  obtain ⟨d₁, hd₁, hprovider, hurl⟩ := document_of_run hrun hrun₁ hd
  obtain ⟨q, hq, hsame⟩ := provider_of_run hrun (hrun₁.trans hrun₂) hp
  have hpath := getFilePath_of_stored hfile
  rw [← hurl] at hpath
  have howner : (c₂.db.providers.find? d₁.providerId).all (·.userId != userId) = true ↔
      ¬ userId = p.userId := by
    rw [hprovider, hq, Option.all_some, hsame, bne_iff_ne, ne_comm]
  simp only [getDocumentFileForUser, hd₁, howner, hpath]
  by_cases hadmin : role = .admin
  · rw [if_neg fun hboth => hboth.1 hadmin, if_pos (Or.inl hadmin)]
    rfl
  · by_cases hown : userId = p.userId
    · rw [if_neg fun hboth => hboth.2 hown, if_pos (Or.inr hown)]
      rfl
    · rw [if_pos ⟨hadmin, hown⟩, if_neg (not_or.mpr ⟨hadmin, hown⟩)]

/-! ## An upload -/

namespace Sample

def taxUrl : String :=
  uploadUrl Storage.Sample.first Storage.Sample.taxReturn.originalname "documents"

/-- The owner uploads a tax return, and the file is stored. -/
def uploading : List (Event Op Exn) :=
  .spawn (.uploadDocument "d" 0 "owner" .gst (.ok taxUrl)) :: steps 0 3

/-- An administrator rejects it; then the owner takes another name. -/
def rejecting : List (Event Op Exn) :=
  .spawn (.rejectProvider ⟨"a", 1, some "admin"⟩ "provider" "illegible") :: steps 1 4

def otherName : List (Event Op Exn) :=
  .spawn (.updateOwnProfile 2 "owner" (nameOnly "Acme Cleaning" (by decide))) :: steps 2 3

def urlOf : Op → Option String
  | .uploadDocument _ _ _ _ (.ok fileUrl) => some fileUrl
  | _ => none

theorem stored_taxUrl :
    Stored Storage.Sample.cwd taxUrl Storage.Sample.first Storage.Sample.taxReturn :=
  ⟨by decide +kernel, fun _ => none, _, if_pos ((uploadFile_ok_iff _ _).mpr documents_named.2)⟩

end Sample

theorem documents_served_sample : ∃ c c₁ c₂,
    runChecked (program Sample.js) (fun _ _ => True) ⟨Sample.db, []⟩ Sample.uploading = some c ∧
    runChecked (program Sample.js) (fun _ _ => True) c Sample.rejecting = some c₁ ∧
    runChecked (program Sample.js) (fun _ _ => True) c₁ Sample.otherName = some c₂ ∧
    (c.db.documents.find? "d").map (·.rejectionReason) = some none ∧
    (c₁.db.documents.find? "d").map (·.rejectionReason) = some (some "illegible") ∧
    (c₂.db.providers.find? "provider").map (·.businessName) = some "Acme Cleaning" ∧
    ∃ P ∈ c.procs, ∃ now owner documentType fileUrl uuid file,
      P.op = .uploadDocument "d" now owner documentType (.ok fileUrl) ∧
      Stored Storage.Sample.cwd fileUrl uuid file ∧
      ∀ userId role, getDocumentFileForUser Storage.Sample.cwd c₁.db c₂.db "d" userId role =
        if role = .admin ∨ userId = owner then
          .ok ⟨uploadPath Storage.Sample.cwd uuid file.originalname "documents",
            mimeType (uploadPath Storage.Sample.cwd uuid file.originalname "documents")⟩
        else .error noPermission := by
  have hends : ∀ c ∈ runChecked (program Sample.js) (fun _ _ => True) ⟨Sample.db, []⟩
      Sample.uploading, (c.db.documents.find? "d").map (·.rejectionReason) = some none ∧
        c.procs.map (fun P => Sample.urlOf P.op) = [some Sample.taxUrl] := by decide +kernel
  obtain ⟨c, hc, hlater⟩ := (Option.any_eq_true _ _).mp
    (show ((runChecked (program Sample.js) (fun _ _ => True) ⟨Sample.db, []⟩
      Sample.uploading).any fun c =>
        (runChecked (program Sample.js) (fun _ _ => True) c Sample.rejecting).any fun c₁ =>
          (c₁.db.documents.find? "d").map (·.rejectionReason) = some (some "illegible") &&
          (runChecked (program Sample.js) (fun _ _ => True) c₁ Sample.otherName).any fun c₂ =>
            (c₂.db.providers.find? "provider").map (·.businessName) = some "Acme Cleaning") = true
      by decide +kernel)
  obtain ⟨c₁, hc₁, hrest⟩ := (Option.any_eq_true _ _).mp hlater
  obtain ⟨hrejected, hrest⟩ := Bool.and_eq_true_iff.mp hrest
  obtain ⟨c₂, hc₂, hrenamed⟩ := (Option.any_eq_true _ _).mp hrest
  obtain ⟨hfresh, hurls⟩ := hends c hc
  obtain ⟨d, hd, _⟩ := Option.map_eq_some_iff.mp hfresh
  refine ⟨c, c₁, c₂, hc, hc₁, hc₂, hfresh, of_decide_eq_true hrejected,
    of_decide_eq_true hrenamed, documents_served Sample.js Storage.Sample.cwd Sample.db c c₁ c₂ "d" d
      (Run.of_runChecked _ _ hc) (Run.of_runChecked _ _ hc₁) (Run.of_runChecked _ _ hc₂)
      (Option.isNone_iff_eq_none.mp (by decide +kernel)) hd ?_⟩
  intro P hP id now userId documentType fileUrl hop
  have hurl : some fileUrl ∈ c.procs.map fun P => Sample.urlOf P.op := by
    refine List.mem_map.mpr ⟨P, hP, ?_⟩
    rw [hop]
    rfl
  rw [hurls] at hurl
  cases List.mem_singleton.mp hurl
  exact ⟨_, _, Sample.stored_taxUrl⟩

end ServiceHub.Providers

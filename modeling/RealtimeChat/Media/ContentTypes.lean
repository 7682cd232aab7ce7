import RealtimeChat.Media.AttachmentService

/-! The content types under which files are stored.

A declared type that is on the allow-list is taken as it is; only another one is
replaced by the type that the extension of the name stands for. So the name has no
say where the declared type is allowed.
-/

set_option autoImplicit false

namespace RealtimeChat.Media

open Foundation Accounts Script

variable {filename type declared : String} {attachment : Attachment}

section Tables

/-- The extension of a name by the rule of the content types: what follows the last dot. -/
def mimeExtension (filename : String) : String :=
  if filename.toList.contains '.' then toLower (String.ofList (afterLast '.' filename.toList)) else ""

theorem contentTypeForExtension_eq (filename : String) :
    contentTypeForExtension filename = (typesByExtension.lookup (mimeExtension filename)).getD "" := rfl

theorem typesByExtension_allowed :
    typesByExtension.all (fun entry => toLower entry.2 = entry.2 && isAllowedUploadType entry.2 && entry.2 ≠ "") = true := by
  decide +kernel

theorem mem_of_lookup {Key Value : Type} [BEq Key] [LawfulBEq Key] {table : List (Key × Value)} {key : Key} {value : Value}
    (found : table.lookup key = some value) : (key, value) ∈ table := by
  obtain ⟨before, after, rfl, _⟩ := List.lookup_eq_some_iff.mp found
  simp

theorem inferred_allowed (listed : (typesByExtension.lookup (mimeExtension filename)).isSome = true) :
    toLower (contentTypeForExtension filename) = contentTypeForExtension filename ∧
      isAllowedUploadType (contentTypeForExtension filename) = true ∧ contentTypeForExtension filename ≠ "" := by
  obtain ⟨type, found⟩ := Option.isSome_iff_exists.mp listed
  have entry := List.all_eq_true.mp typesByExtension_allowed _ (mem_of_lookup found)
  rw [contentTypeForExtension_eq, found]
  simpa [and_assoc] using entry

theorem length_toLower (value : String) : (toLower value).length = value.length := by
  simp [toLower, String.length_toList]

theorem length_of_allowed (allowed : isAllowedUploadType type = true) : type.length ≤ 128 := by
  obtain ⟨kind, found⟩ := Option.isSome_iff_exists.mp allowed
  have short : typeMap.all (fun entry => entry.1.length ≤ 128) = true := by decide +kernel
  have entry := List.all_eq_true.mp short _ (mem_of_lookup found)
  rw [← length_toLower]
  exact of_decide_eq_true entry

end Tables

section Resolution

/-- The declared type is not allowed, or it is the one that the name stands for. -/
def Consistent (declared filename : String) : Prop :=
  isAllowedUploadType declared = true → toLower declared = contentTypeForExtension filename

theorem empty_not_allowed : isAllowedUploadType "" = false := by decide +kernel

theorem resolve_allowed (allowed : isAllowedUploadType declared = true) (filename : String) :
    resolveContentType declared filename = .ok declared := by
  have filled : declared ≠ "" := by
    rintro rfl
    exact absurd allowed (by rw [empty_not_allowed]; decide)
  simp [resolveContentType, filled, allowed]

theorem resolve_consistent (consistent : Consistent declared filename)
    (listed : (typesByExtension.lookup (mimeExtension filename)).isSome = true)
    (resolved : resolveContentType declared filename = .ok type) : toLower type = contentTypeForExtension filename := by
  dsimp only [resolveContentType] at resolved
  split at resolved
  · next accepted =>
    cases resolved
    exact consistent accepted.2
  · split at resolved
    · cases resolved
      exact (inferred_allowed listed).1
    · cases resolved

end Resolution

section Uploads

variable {service : AttachmentService} {seen : Library}

/-- What is known of an upload that has been answered with an attachment. -/
def Accepted (service : AttachmentService) (input : UploadInput) (attachment : Attachment) : Prop :=
  service.checkUpload input = .ok attachment.2.contentType ∧ Database.Fits 255 input.filename

theorem meets_put {key : String} {bytes : Bytes} {post : LocalFileStorage.StoredObject → Library → Prop}
    (holds : ∀ state, post ⟨key, "local", bytes.length⟩ state) :
    (LocalFileStorage.put key bytes).Meets Action.exec (fun _ _ => True) post seen := by
  refine meets_bind (meets_act (fun _ _ _ _ _ => ⟨trivial, ?_⟩) fun _ _ _ => trivial)
  refine meets_bind (meets_act (fun _ after _ _ _ => ⟨trivial, holds after⟩) fun _ _ _ => trivial)

theorem create_returns {library after : Library} {input : NewAttachment}
    (created : AttachmentRepository.create library input = .ok (after, attachment)) :
    attachment.2.contentType = input.contentType ∧ Database.Fits 255 input.originalFilename := by
  obtain ⟨_, checked, made⟩ := bind_eq_ok.mp created
  cases made
  refine ⟨rfl, ?_⟩
  unfold AttachmentRepository.check at checked
  split at checked
  · cases checked
  · next fits => exact Database.tooLong_eq_none.mp fits (255, some input.originalFilename) (by simp) _ rfl

theorem meets_upload (input : UploadInput) (token : HexToken) :
    (service.upload input token).Meets Action.exec (fun _ _ => True)
      (fun attachment _ => Accepted service input attachment) seen := by
  refine meets_bind (meets_require fun contentType checked => ?_)
  refine meets_bind (meets_put fun _ => ?_)
  refine meets_bind (meets_act (fun _ _ attachment _ created => ⟨trivial, ?_⟩) fun _ _ _ => trivial)
  obtain ⟨sameType, short⟩ := create_returns created
  have accepted : Accepted service input attachment := ⟨by rw [checked, sameType], short⟩
  dsimp only
  split
  · exact meets_bind (meets_act (fun _ _ _ _ _ => ⟨trivial, accepted⟩) fun _ _ _ => trivial)
  · exact accepted

theorem rely_uploads : Rely (library service) (fun _ _ => True) fun operation answer _ =>
    ∀ input token attachment, operation = .upload input token → answer = .attachment attachment →
      Accepted service input attachment where
  refl _ := trivial
  trans _ _ := trivial
  moves _ _ := trivial
  bodies operation state := by
    cases operation with
    | upload input token =>
      refine meets_bind ((meets_upload input token).mono fun attachment _ accepted => ?_)
      rintro _ _ _ ⟨⟩ ⟨⟩
      exact accepted
    | chat | remove | processImage => exact meets_always fun _ _ _ _ _ other => nomatch other

end Uploads

/-- Whatever else goes on, an upload of this name that declares this type is stored, if it is
accepted, under the type that the name stands for. -/
def StoredAsNamed (declared filename : String) : Prop :=
  ∀ (service : AttachmentService) (users : UserTable) (labels : List Calls.Label) (final : Calls),
    (library service).step.run (Calls.initial users) labels = some final →
    ∀ call ∈ final.calls, ∀ (ownerId : UserId) (bytes : Bytes) (token : HexToken) (attachment : Attachment),
      call.operation = .upload ⟨ownerId, filename, declared, bytes⟩ token →
      call.script = .done (.ok (.attachment attachment)) →
      toLower attachment.2.contentType = contentTypeForExtension filename

section Spoofing

def uploadRow (service : AttachmentService) (input : UploadInput) (token : HexToken) (type : String) : NewAttachment :=
  ⟨input.ownerId, "local", storageKey input.ownerId token input.filename, input.filename, type, classify type,
    input.bytes.length, service.sha256Hex input.bytes⟩

theorem run_upload {service : AttachmentService} {library : Library} {input : UploadInput} {token : HexToken}
    (checked : service.checkUpload input = .ok type) (unsupported : service.imageProcessor.supports type = false)
    (created : ∀ files, ∃ after, AttachmentRepository.create { library with files := files }
      (uploadRow service input token type) = .ok (after, attachment)) :
    (((service.upload input token).toProgram Action.exec).run library).2 = .ok attachment := by
  unfold AttachmentService.upload
  rw [checked]
  refine (congrArg Prod.snd (run_act Action.exec (.openFile _) rfl)).trans ?_
  refine (congrArg Prod.snd (run_act Action.exec (.writeFile _ _) rfl)).trans ?_
  obtain ⟨after, inserted⟩ := created _
  refine (congrArg Prod.snd (run_act Action.exec (.create (uploadRow service input token type)) inserted)).trans ?_
  simp only [unsupported, Bool.false_eq_true, and_false, if_false]
  rfl

def plainService : AttachmentService := ⟨1, 256, ⟨fun _ => false, fun _ => none, fun _ _ _ => none⟩, fun _ => ""⟩

theorem create_plain (named : Database.Fits 255 filename) (fits : type.length ≤ 128) (token : HexToken)
    (files : String → Option Bytes) :
    ∃ after, AttachmentRepository.create { (Calls.initial Chat.annAndBob).state with files := files }
      (uploadRow plainService ⟨1, filename, type, [0]⟩ token type) = .ok (after, ⟨1, 1, none⟩,
        AttachmentRepository.mediaRow (uploadRow plainService ⟨1, filename, type, [0]⟩ token type) 1) := by
  have columns : Database.tooLong [(32, some "local"), (255, some filename), (128, some type), (64, some "")] = none := by
    rw [Database.tooLong_cons (by decide), Database.tooLong_cons named,
      Database.tooLong_cons (Database.fits_of_length fits)]
    decide
  refine ⟨_, bind_eq_ok.mpr ⟨(), ?_, rfl⟩⟩
  simp only [AttachmentRepository.check, uploadRow, plainService, columns]
  decide

theorem stored_as_declared (allowed : isAllowedUploadType declared = true) (named : Database.Fits 255 filename)
    (token : HexToken) :
    ∃ labels final, (library plainService).step.run (Calls.initial Chat.annAndBob) labels = some final ∧
      ∃ call ∈ final.calls, ∃ attachment, call.operation = .upload ⟨1, filename, declared, [0]⟩ token ∧
        call.script = .done (.ok (.attachment attachment)) ∧ attachment.2.contentType = declared := by
  have checked : plainService.checkUpload ⟨1, filename, declared, [0]⟩ = .ok declared := resolve_allowed allowed filename
  have answered := run_upload checked rfl (create_plain named (length_of_allowed allowed) token)
  obtain ⟨labels, taken, runs⟩ := System.run_uninterrupted (library plainService) (Calls.initial Chat.annAndBob)
    (.upload ⟨1, filename, declared, [0]⟩ token)
  have ended : (((plainService.upload ⟨1, filename, declared, [0]⟩ token >>= fun attachment =>
      pure (Answer.attachment attachment)).toProgram Action.exec).run (Calls.initial Chat.annAndBob).state).2 =
        .ok (.attachment (⟨1, 1, none⟩,
          AttachmentRepository.mediaRow (uploadRow plainService ⟨1, filename, declared, [0]⟩ token declared) 1)) := by
    rw [toProgram_bind, Program.run_seq]
    split
    · next stored =>
      rw [stored] at answered
      cases answered
      rfl
    · next failed =>
      rw [failed] at answered
      cases answered
  exact ⟨_, _, runs, _, List.mem_append_right _ List.mem_cons_self, _, rfl, congrArg Script.done ended, rfl⟩

end Spoofing

/-- A file is stored under the type its name stands for exactly when the type that is declared for it is
not an allowed one or agrees with the name, or when the name does not fit its column. -/
theorem stored_as_named_iff {filename : String} (listed : (typesByExtension.lookup (mimeExtension filename)).isSome = true)
    (declared : String) : StoredAsNamed declared filename ↔ Consistent declared filename ∨ ¬ Database.Fits 255 filename := by
  constructor
  · intro stored
    by_contra neither
    obtain ⟨spoofed, named⟩ := not_or.mp neither
    refine spoofed fun allowed => ?_
    obtain ⟨labels, final, runs, call, member, attachment, started, ended, type⟩ :=
      stored_as_declared allowed (not_not.mp named) ⟨List.replicate 32 'a', List.length_replicate⟩
    rw [← type]
    exact stored _ _ labels final runs call member _ _ _ attachment started ended
  · intro condition service users labels final runs call member ownerId bytes token attachment started ended
    obtain ⟨_, bound⟩ := rely_uploads.run (by simp [Calls.initial]) runs
    obtain ⟨seen, _, meets⟩ := bound call member
    rw [ended] at meets
    obtain ⟨checked, named⟩ := meets _ token attachment started rfl
    have consistent := condition.resolve_right (not_not.mpr named)
    refine resolve_consistent consistent listed ?_
    unfold AttachmentService.checkUpload at checked
    split at checked
    · cases checked
    · split at checked
      · cases checked
      · exact checked

theorem stored_as_named_iff_report : (typesByExtension.lookup (mimeExtension "report.PDF")).isSome = true ∧
    (StoredAsNamed "Application/pdf" "report.PDF" ↔
      Consistent "Application/pdf" "report.PDF" ∨ ¬ Database.Fits 255 "report.PDF") :=
  ⟨by decide +kernel, stored_as_named_iff (by decide +kernel) "Application/pdf"⟩

/-- A file named as a document is stored as the image that the client declares. -/
theorem report_stored_as_image : ∃ labels final,
    (library plainService).step.run (Calls.initial Chat.annAndBob) labels = some final ∧
      ∃ call ∈ final.calls, ∃ token attachment, call.operation = .upload ⟨1, "report.pdf", "image/png", [0]⟩ token ∧
        call.script = .done (.ok (.attachment attachment)) ∧ attachment.2.contentType = "image/png" ∧
        contentTypeForExtension "report.pdf" = "application/pdf" := by
  obtain ⟨labels, final, runs, call, member, attachment, started, ended, type⟩ :=
    @stored_as_declared "report.pdf" "image/png" (by decide +kernel) (by decide)
      ⟨List.replicate 32 'a', List.length_replicate⟩
  exact ⟨labels, final, runs, call, member, _, attachment, started, ended, type, by decide +kernel⟩

end RealtimeChat.Media

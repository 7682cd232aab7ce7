import RealtimeChat.Chat.Attachments

/-! Uploads, their bytes and their rows.

The bytes of an attachment are files below a root directory, and its row is in
the database. An upload writes the file first and inserts the row then; a removal
deletes the files first and the row then. Thumbnails are made by a job of the
background executor. The services of the chat run beside, and a conversation is
deleted together with the rows of the attachments that were sent in it.
-/

set_option autoImplicit false

namespace RealtimeChat.Media

open Foundation Accounts

section Types

inductive AttachmentKind where
  | image
  | pdf
  | document
  | video
  | audio
  | other
  deriving DecidableEq, Repr

/-- Explicit allow-list; anything not present is rejected. -/
def typeMap : List (String × AttachmentKind) :=
  [("image/jpeg", .image), ("image/png", .image), ("image/gif", .image), ("image/webp", .image),
    ("application/pdf", .pdf), ("text/plain", .document), ("text/csv", .document), ("application/msword", .document),
    ("application/vnd.openxmlformats-officedocument.wordprocessingml.document", .document),
    ("application/vnd.openxmlformats-officedocument.spreadsheetml.sheet", .document),
    ("video/mp4", .video), ("video/webm", .video), ("video/quicktime", .video),
    ("audio/mpeg", .audio), ("audio/ogg", .audio), ("audio/wav", .audio), ("audio/webm", .audio)]

def isAllowedUploadType (contentType : String) : Bool := (typeMap.lookup (toLower contentType)).isSome

def classify (contentType : String) : AttachmentKind := (typeMap.lookup (toLower contentType)).getD .other

def typesByExtension : List (String × String) :=
  [("jpg", "image/jpeg"), ("jpeg", "image/jpeg"), ("png", "image/png"), ("gif", "image/gif"), ("webp", "image/webp"),
    ("pdf", "application/pdf"), ("txt", "text/plain"), ("csv", "text/csv"), ("mp4", "video/mp4"), ("webm", "video/webm"),
    ("mov", "video/quicktime"), ("mp3", "audio/mpeg"), ("ogg", "audio/ogg"), ("wav", "audio/wav")]

/-- What follows the last such character; the whole text if there is none. -/
def afterLast (mark : Char) (text : List Char) : List Char := (text.reverse.takeWhile (· ≠ mark)).reverse

def contentTypeForExtension (filename : String) : String :=
  let extension := if filename.toList.contains '.' then toLower (String.ofList (afterLast '.' filename.toList)) else ""
  (typesByExtension.lookup extension).getD ""

/-- Derives an effective, allowed content type from the declared one or from the name of the file. -/
def resolveContentType (declared filename : String) : Result String :=
  let inferred := contentTypeForExtension filename
  if declared ≠ "" ∧ isAllowedUploadType declared then .ok declared
  else if inferred ≠ "" ∧ isAllowedUploadType inferred then .ok inferred
  else .error ⟨.unsupportedMedia, "Unsupported or disallowed file type", "content_type=" ++ declared⟩

/-- `std::filesystem::path::extension`: from the last dot of the last component, unless the
component starts with it. -/
def extensionOf (filename : String) : String :=
  let name := afterLast '/' filename.toList
  let tail := afterLast '.' name
  if name ≠ ['.', '.'] ∧ tail.length + 1 < name.length then String.ofList ('.' :: tail) else ""

end Types

section Keys

/-- What `generate_hex_token(16)` returns. -/
structure HexToken where
  digits : List Char
  length_digits : digits.length = 32
  deriving DecidableEq

/-- Opaque, collision-resistant key namespaced by owner; preserves the extension. -/
def storageKey (ownerId : UserId) (token : HexToken) (filename : String) : String :=
  toString ownerId ++ "/" ++ String.ofList token.digits ++ extensionOf filename

def thumbnailKey (baseKey : String) : String := baseKey ++ ".thumb"

def tokenOf (key : String) : List Char := ((key.toList.dropWhile (· ≠ '/')).drop 1).take 32

end Keys

/-- The columns of `attachments` beside those that sending a message uses. -/
structure MediaColumns where
  id : Int
  storageBackend : String
  storageKey : String
  thumbnailKey : Option String
  originalFilename : String
  contentType : String
  kind : AttachmentKind
  byteSize : Nat
  width : Option Int
  height : Option Int
  checksum : Option String
  deriving DecidableEq, Repr

structure NewAttachment where
  ownerId : UserId
  storageBackend : String
  storageKey : String
  originalFilename : String
  contentType : String
  kind : AttachmentKind
  byteSize : Nat
  checksum : String
  deriving DecidableEq, Repr

abbrev Attachment := Chat.Attachment × MediaColumns

structure ImageJob where
  attachmentId : Int
  bytes : Bytes
  contentType : String
  baseKey : String
  deriving DecidableEq, Repr

/-- The database, the files and the jobs of the executor that have not been taken. A row of
`attachments` is the one of the chat together with the one of `media` that has its id. -/
structure Library where
  backend : Chat.Backend
  media : Serial MediaColumns.id
  files : String → Option Bytes
  jobs : List ImageJob

inductive Action where
  | chat (action : Chat.Action)
  | openFile (key : String)
  | writeFile (key : String) (bytes : Bytes)
  | removeFile (key : String)
  | create (input : NewAttachment)
  | findById (id : Int)
  | updateMediaMeta (id : Int) (width height : Option Int) (thumbnailKey : Option String)
  | remove (id : Int)
  | submit (job : ImageJob)
  | take
  deriving DecidableEq, Repr

abbrev Action.Returned : Action → Type
  | .chat action => action.Returned
  | .openFile _ | .writeFile _ _ => Unit
  | .removeFile _ => Bool
  | .create _ => Attachment
  | .findById _ => Option Attachment
  | .updateMediaMeta _ _ _ _ => Unit
  | .remove _ => Bool
  | .submit _ => Unit
  | .take => Option ImageJob

namespace AttachmentRepository

/-- PostgreSQL looks at the widths of the columns before the foreign key. -/
def check (library : Library) (input : NewAttachment) : Result Unit :=
  match Database.tooLong [(32, some input.storageBackend), (255, some input.originalFilename),
    (128, some input.contentType), (64, some input.checksum)] with
  | some width => .error (Database.valueTooLong width)
  | none => Chat.checkUser library.backend.store "attachments" "owner_id" input.ownerId

def mediaRow (input : NewAttachment) (id : Int) : MediaColumns :=
  ⟨id, input.storageBackend, input.storageKey, none, Database.stored 255 input.originalFilename, input.contentType,
    input.kind, input.byteSize, none, none, some input.checksum⟩

def create (library : Library) (input : NewAttachment) : Result (Library × Attachment) := do
  check library input
  let store := Chat.AttachmentRepository.create library.backend.store input.ownerId
  let library' := { library with
    backend := { library.backend with store := store }
    media := library.media.append (mediaRow input) fun _ => rfl }
  return (library', ⟨library.backend.store.attachments.next, input.ownerId, none⟩, mediaRow input library.media.next)

def findById (library : Library) (id : Int) : Option Attachment := do
  let row ← library.backend.store.attachments.find id
  let media ← library.media.find id
  return (row, media)

def setMediaMeta (width height : Option Int) (thumbnailKey : Option String) (media : MediaColumns) : MediaColumns :=
  { media with
    width := width.or media.width
    height := height.or media.height
    thumbnailKey := thumbnailKey.or media.thumbnailKey }

def updateMediaMeta (library : Library) (id : Int) (width height : Option Int) (thumbnailKey : Option String) : Library :=
  if (library.backend.store.attachments.find id).isSome then
    { library with
      media := library.media.updateWhere (fun media => media.id = id) (setMediaMeta width height thumbnailKey) fun _ => rfl }
  else library

def remove (library : Library) (id : Int) : Library :=
  { library with
    backend := { library.backend with store := Chat.AttachmentRepository.remove library.backend.store id } }

end AttachmentRepository

/-- Opening a file for writing creates it or empties it. -/
def Action.exec : (action : Action) → Library → Result (Library × action.Returned)
  | .chat action, library =>
    (action.exec library.backend).map fun (backend, value) => ({ library with backend := backend }, value)
  | .openFile key, library => .ok ({ library with files := Function.update library.files key (some []) }, ())
  | .writeFile key bytes, library =>
    .ok ({ library with files := Function.update library.files key ((library.files key).map fun _ => bytes) }, ())
  | .removeFile key, library =>
    .ok ({ library with files := Function.update library.files key none }, (library.files key).isSome)
  | .create input, library => AttachmentRepository.create library input
  | .findById id, library => .ok (library, AttachmentRepository.findById library id)
  | .updateMediaMeta id width height thumbnailKey, library =>
    .ok (AttachmentRepository.updateMediaMeta library id width height thumbnailKey, ())
  | .remove id, library =>
    .ok (AttachmentRepository.remove library id, (library.backend.store.attachments.find id).isSome)
  | .submit job, library => .ok ({ library with jobs := library.jobs ++ [job] }, ())
  | .take, library => .ok ({ library with jobs := library.jobs.tail }, library.jobs.head?)

abbrev Plan := Script Action Action.Returned AppException

def perform (action : Action) : Plan action.Returned := Script.perform action

namespace LocalFileStorage

structure StoredObject where
  key : String
  backend : String
  size : Nat

def put (key : String) (bytes : Bytes) : Plan StoredObject := do
  perform (.openFile key)
  perform (.writeFile key bytes)
  return ⟨key, "local", bytes.length⟩

/-- An error of the file system is not reported. -/
def remove (key : String) : Plan Bool :=
  .act (.removeFile key) fun result =>
    match result with
    | .ok removed => .done (.ok removed)
    | .error _ => .done (.ok false)

end LocalFileStorage

structure ImageInfo where
  width : Int
  height : Int

structure ImageProcessor where
  supports : String → Bool
  probe : Bytes → Option ImageInfo
  makeThumbnail : Bytes → String → Int → Option Bytes

/-- Validates that a content type is an image and does nothing else. -/
def ImageProcessor.noop : ImageProcessor where
  supports contentType := "image/".toList.isPrefixOf contentType.toList
  probe _ := none
  makeThumbnail _ _ _ := none

structure AttachmentService where
  maxUploadBytes : Nat
  thumbnailMaxDimension : Int
  imageProcessor : ImageProcessor
  sha256Hex : Bytes → String

structure UploadInput where
  ownerId : UserId
  filename : String
  declaredContentType : String
  bytes : Bytes
  deriving DecidableEq, Repr

namespace AttachmentService

variable (service : AttachmentService)

/-- The checks that come before anything is stored, and the content type they arrive at. -/
def checkUpload (input : UploadInput) : Result String :=
  if input.bytes.isEmpty then .error ⟨.validation, "Uploaded file is empty", ""⟩
  else if service.maxUploadBytes < input.bytes.length then
    .error ⟨.payloadTooLarge, "File exceeds the maximum allowed size", "max_bytes=" ++ toString service.maxUploadBytes⟩
  else resolveContentType input.declaredContentType input.filename

def upload (input : UploadInput) (token : HexToken) : Plan Attachment := do
  let contentType ← Script.require (service.checkUpload input)
  let kind := classify contentType
  let stored ← LocalFileStorage.put (storageKey input.ownerId token input.filename) input.bytes
  let attachment ← perform (.create
    ⟨input.ownerId, stored.backend, stored.key, input.filename, contentType, kind, stored.size, service.sha256Hex input.bytes⟩)
  if kind = .image ∧ service.imageProcessor.supports contentType then
    perform (.submit ⟨attachment.1.id, input.bytes, contentType, stored.key⟩)
  return attachment

/-- A worker of the executor takes the next job of `schedule_image_processing` and runs it. -/
def processImage : Plan Unit := do
  match ← perform .take with
  | none => return ()
  | some job =>
    let info := service.imageProcessor.probe job.bytes
    match service.imageProcessor.makeThumbnail job.bytes job.contentType service.thumbnailMaxDimension with
    | some thumbnail =>
      let _ ← LocalFileStorage.put (thumbnailKey job.baseKey) thumbnail
      perform (.updateMediaMeta job.attachmentId (info.map ImageInfo.width) (info.map ImageInfo.height)
        (some (thumbnailKey job.baseKey)))
    | none =>
      if info.isSome then
        perform (.updateMediaMeta job.attachmentId (info.map ImageInfo.width) (info.map ImageInfo.height) none)
      else return ()

def requireAttachment (id : Int) : Plan Attachment := do
  match ← perform (.findById id) with
  | some attachment => return attachment
  | none => Script.require (.error ⟨.notFound, "Attachment not found", ""⟩)

def remove (actorId : UserId) (id : Int) : Plan Unit := do
  let attachment ← requireAttachment id
  if attachment.1.ownerId ≠ actorId then
    Script.require (.error ⟨.authorization, "Only the owner may delete this attachment", ""⟩)
  else
    let _ ← LocalFileStorage.remove attachment.2.storageKey
    if let some key := attachment.2.thumbnailKey then
      let _ ← LocalFileStorage.remove key
    let _ ← perform (.remove id)

end AttachmentService

inductive Operation where
  | chat (request : Chat.Request)
  | upload (input : UploadInput) (token : HexToken)
  | remove (actorId : UserId) (id : Int)
  | processImage
  deriving DecidableEq

inductive Answer where
  | chat (answer : Chat.Answer)
  | attachment (attachment : Attachment)
  | done
  deriving DecidableEq, Repr

/-- A plan of the chat takes its actions beside those of the attachments. -/
def ofChat : Chat.Plan Chat.Answer → Plan Answer
  | .done result => .done (result.map .chat)
  | .act action next => .act (.chat action) fun result => ofChat (next result)

def Operation.plan (service : AttachmentService) : Operation → Plan Answer
  | .chat request => ofChat request.plan
  | .upload input token => do return .attachment (← service.upload input token)
  | .remove actorId id => do
    AttachmentService.remove actorId id
    return .done
  | .processImage => do
    service.processImage
    return .done

/-- The services over one database and one directory; the environment sets the clock. -/
def library (service : AttachmentService) : System Library TimePoint Operation Action Action.Returned AppException Answer where
  exec := Action.exec
  body := Operation.plan service
  move now library := { library with backend := { library.backend with now := now } }

abbrev Calls := Pool Library Operation Action Action.Returned AppException Answer

abbrev Calls.Label := Pool.Label TimePoint Operation AppException

def Calls.initial (users : UserTable) : Calls := ⟨⟨(Chat.Calls.initial users).state, .empty _, fun _ => none, []⟩, []⟩

end RealtimeChat.Media

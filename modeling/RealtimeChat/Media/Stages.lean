import RealtimeChat.Foundation.Custody
import RealtimeChat.Foundation.Decimal
import RealtimeChat.Foundation.Protocol
import RealtimeChat.Media.AttachmentService

/-! The stages of the calls that use files.

A stage says which file a call has written and not yet entered, or which row it
is removing. Every call of the services keeps to these stages, as long as none of
its actions fails that would leave a file or a row behind.
-/

set_option autoImplicit false

namespace RealtimeChat.Media

open Foundation Accounts Script

section Tokens

variable (ownerId : UserId) (token : HexToken)

theorem tokenOf_append (rest : String) :
    tokenOf (toString ownerId ++ "/" ++ String.ofList token.digits ++ rest) = token.digits := by
  have numeral : ∀ c ∈ (toString ownerId).toList, decide (c ≠ '/') = true := fun c member =>
    decide_eq_true fun same => not_mem_toString_int rfl (by decide) ownerId (same ▸ member)
  have slash : "/".toList = ['/'] := String.toList_ofList
  simp only [tokenOf, String.toList_append, String.toList_ofList, slash, List.append_assoc]
  rw [List.dropWhile_append_of_pos numeral, List.singleton_append, List.dropWhile_cons_of_neg (by decide), List.drop_one,
    List.tail_cons, List.take_left' token.length_digits]

theorem tokenOf_storageKey (filename : String) : tokenOf (storageKey ownerId token filename) = token.digits :=
  tokenOf_append ownerId token _

theorem tokenOf_thumbnailKey (filename : String) :
    tokenOf (thumbnailKey (storageKey ownerId token filename)) = tokenOf (storageKey ownerId token filename) := by
  rw [thumbnailKey, storageKey, String.append_assoc, tokenOf_append, tokenOf_append]

end Tokens

abbrev Stage := Custody.Stage String (List Char)

/-- The actions whose failure leaves a file without a row, or a row without a file. -/
def Action.critical : Action → Bool
  | .writeFile _ _ | .removeFile _ | .create _ | .remove _ | .updateMediaMeta _ _ _ (some _) => true
  | _ => false

def MediaColumns.entry (media : MediaColumns) : Entry String := ⟨media.id, media.storageKey, media.thumbnailKey⟩

def MediaColumns.keys (media : MediaColumns) : List String := media.storageKey :: media.thumbnailKey.toList

inductive Leads : Stage → (action : Action) → Except AppException action.Returned → Stage → Prop where
  | chats (action : Chat.Action) (result : Except AppException action.Returned) : Leads .idle (.chat action) result .idle
  | misses (id : Int) (result : Except AppException (Option Attachment)) : Leads .idle (.findById id) result .idle
  | finds (id : Int) (attachment : Attachment) :
      Leads .idle (.findById id) (.ok (some attachment)) (.emptying id attachment.2.keys)
  | waits : Leads .idle .take (.ok none) .idle
  | takesNot (error : AppException) : Leads .idle .take (.error error) .idle
  | takes (job : ImageJob) : Leads .idle .take (.ok (some job)) (.tasked job.attachmentId job.baseKey)
  | opens (key : String) : Leads (.drawn (tokenOf key)) (.openFile key) (.ok ()) (.holding key)
  | opensNot (token : List Char) (key : String) (error : AppException) :
      Leads (.drawn token) (.openFile key) (.error error) (.drawn token)
  | writes (key : String) (bytes : Bytes) : Leads (.holding key) (.writeFile key bytes) (.ok ()) (.holding key)
  | enters (input : NewAttachment) (attachment : Attachment)
      (derives : tokenOf (thumbnailKey input.storageKey) = tokenOf input.storageKey) :
      Leads (.holding input.storageKey) (.create input) (.ok attachment) (.tasked attachment.1.id input.storageKey)
  | submits (job : ImageJob) (result : Except AppException Unit) :
      Leads (.tasked job.attachmentId job.baseKey) (.submit job) result .idle
  | measures (id : Int) (key : String) (width height : Option Int) (result : Except AppException Unit) :
      Leads (.tasked id key) (.updateMediaMeta id width height none) result .idle
  | frames (id : Int) (key : String) : Leads (.tasked id key) (.openFile (thumbnailKey key)) (.ok ()) (.framing id key)
  | framesNot (id : Int) (key : String) (error : AppException) :
      Leads (.tasked id key) (.openFile (thumbnailKey key)) (.error error) (.tasked id key)
  | draws (id : Int) (key : String) (bytes : Bytes) :
      Leads (.framing id key) (.writeFile (thumbnailKey key) bytes) (.ok ()) (.framing id key)
  | records (id : Int) (key : String) (width height : Option Int) :
      Leads (.framing id key) (.updateMediaMeta id width height (some (thumbnailKey key))) (.ok ()) .idle
  | unlinks (id : Int) (key : String) (left : List String) (removed : Bool) :
      Leads (.emptying id (key :: left)) (.removeFile key) (.ok removed) (.emptying id left)
  | deletes (id : Int) (removed : Bool) : Leads (.emptying id []) (.remove id) (.ok removed) .idle

/-- Of a critical action only its success is covered. -/
def protocol : Protocol Stage Action Action.Returned AppException where
  moves := Leads
  rests := Custody.Stage.rests
  covers action result := action.critical = false ∨ ∃ value, result = .ok value
  covered
    | .writeFile _ _ | .updateMediaMeta _ _ _ _ => ⟨.ok (), .inr ⟨(), rfl⟩⟩
    | .removeFile _ | .remove _ => ⟨.ok true, .inr ⟨true, rfl⟩⟩
    | .create input => ⟨.ok (⟨0, 0, none⟩, AttachmentRepository.mediaRow input 0), .inr ⟨_, rfl⟩⟩
    | .chat _ | .openFile _ | .findById _ | .submit _ | .take => ⟨.error ⟨.internal, "", ""⟩, .inl rfl⟩

theorem not_covers_error {action : Action} (critical : action.critical = true) (error : AppException) :
    ¬ protocol.covers action (.error error) := by
  rintro (harmless | ⟨value, same⟩)
  · exact absurd (critical.symm.trans harmless) Bool.noConfusion
  · cases same

section Plans

variable {service : AttachmentService}

theorem follows_ofChat {plan : Chat.Plan Chat.Answer} : (ofChat plan).Follows protocol (fun _ => protocol.rests) .idle := by
  induction plan with
  | done result => cases result <;> trivial
  | act action next ih => exact fun result _ => ⟨.idle, .chats action result, ih result⟩

theorem follows_put {key : String} {bytes : Bytes} {before held : Stage} {post : LocalFileStorage.StoredObject → Stage → Prop}
    (opens : Leads before (.openFile key) (.ok ()) held) (rests : before.rests)
    (opensNot : ∀ error, Leads before (.openFile key) (.error error) before)
    (writes : Leads held (.writeFile key bytes) (.ok ()) held) (holds : post ⟨key, "local", bytes.length⟩ held) :
    (LocalFileStorage.put key bytes).Follows protocol post before := by
  refine follows_bind (follows_act (fun _ => ⟨held, opens, ?_⟩) fun error _ => ⟨before, opensNot error, rests⟩)
  exact follows_bind (follows_act (fun _ => ⟨held, writes, holds⟩) fun error covers => absurd covers (not_covers_error rfl error))

theorem follows_upload (input : UploadInput) (token : HexToken) :
    (service.upload input token).Follows protocol (fun _ => protocol.rests) (.drawn token.digits) := by
  refine follows_bind (follows_require trivial fun contentType _ => ?_)
  have opens := Leads.opens (storageKey input.ownerId token input.filename)
  rw [tokenOf_storageKey] at opens
  refine follows_bind (follows_put opens trivial (fun error => .opensNot _ _ error) (.writes _ _) ?_)
  refine follows_bind (follows_act (fun attachment => ?_) fun error covers => absurd covers (not_covers_error rfl error))
  have enters := Leads.enters ⟨input.ownerId, "local", storageKey input.ownerId token input.filename, input.filename,
    contentType, classify contentType, input.bytes.length, service.sha256Hex input.bytes⟩ attachment
    (tokenOf_thumbnailKey input.ownerId token input.filename)
  refine ⟨_, enters, follows_done ?_⟩
  dsimp only
  split
  · refine follows_bind (follows_act (fun _ => ⟨.idle, ?_, trivial⟩) fun error _ => ⟨.idle, ?_, trivial⟩) <;>
      exact .submits ⟨_, _, _, _⟩ _
  · exact follows_done trivial

theorem follows_processImage : service.processImage.Follows protocol (fun _ => protocol.rests) .idle := by
  refine follows_bind (follows_act (fun taken => ?_) fun error _ => ⟨.idle, .takesNot error, trivial⟩)
  cases taken with
  | none => exact ⟨.idle, .waits, trivial⟩
  | some job =>
    refine ⟨_, .takes job, follows_done ?_⟩
    dsimp only
    split
    · refine follows_bind (follows_put (.frames _ _) trivial (fun error => .framesNot _ _ error) (.draws _ _ _) ?_)
      exact follows_act (fun _ => ⟨_, .records _ _ _ _, trivial⟩) fun error covers => absurd covers (not_covers_error rfl error)
    · split
      · exact follows_act (fun _ => ⟨_, .measures _ _ _ _ _, trivial⟩) fun error _ => ⟨_, .measures _ _ _ _ _, trivial⟩
      · trivial

theorem follows_removeFile {id : Int} {key : String} {left : List String} {post : Bool → Stage → Prop}
    (holds : ∀ removed, post removed (.emptying id left)) :
    (LocalFileStorage.remove key).Follows protocol post (.emptying id (key :: left)) :=
  follows_act (fun removed => ⟨_, .unlinks id key left removed, holds removed⟩)
    fun error covers => absurd covers (not_covers_error rfl error)

theorem follows_remove (actorId : UserId) (id : Int) :
    (AttachmentService.remove actorId id).Follows protocol (fun _ => protocol.rests) .idle := by
  refine follows_bind (follows_bind (follows_act (fun found => ?_) fun error _ => ⟨.idle, .misses id _, trivial⟩))
  cases found with
  | none => exact ⟨.idle, .misses id _, trivial⟩
  | some attachment =>
    by_cases stranger : attachment.1.ownerId ≠ actorId
    · refine ⟨.idle, .misses id _, follows_done (follows_done ?_)⟩
      rw [if_pos stranger]
      exact follows_require trivial nofun
    · refine ⟨_, .finds id attachment, follows_done (follows_done ?_)⟩
      have deletes : (perform (.remove id) >>= fun _ => pure ()).Follows protocol (fun (_ : Unit) => protocol.rests)
          (.emptying id []) :=
        follows_bind (follows_act (fun removed => ⟨.idle, .deletes id removed, follows_done (follows_done trivial)⟩)
          fun error covers => absurd covers (not_covers_error rfl error))
      rw [if_neg stranger]
      refine follows_bind (follows_removeFile fun _ => ?_)
      cases attachment.2.thumbnailKey with
      | none => exact deletes
      | some key => exact follows_bind (follows_removeFile fun _ => deletes)

def Operation.token : Operation → Option (List Char)
  | .upload _ token => some token.digits
  | _ => none

def Operation.stage (operation : Operation) : Stage := operation.token.elim .idle .drawn

theorem stands_body (operation : Operation) :
    protocol.Stands ⟨operation, (library service).body operation, []⟩ operation.stage := by
  cases operation with
  | chat request => exact follows_ofChat
  | upload input token => exact follows_bind (follows_upload input token)
  | remove actorId id => exact follows_bind (follows_remove actorId id)
  | processImage => exact follows_bind follows_processImage

end Plans

end RealtimeChat.Media

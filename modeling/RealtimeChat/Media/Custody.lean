import RealtimeChat.Media.Stages

/-! Files and the rows that name them.

Steps that all succeed keep the files and the rows together, at any interleaving
of the calls. A write, an insert or a deletion that fails does not, nor does the
deletion of a conversation with attachments in it.
-/

set_option autoImplicit false

namespace RealtimeChat.Media

open Foundation Accounts Script

section Rows

/-- The ids of the rows that there are, and the last one that has been given. -/
def rowIds (store : Chat.Store) : List Int × Nat :=
  (store.attachments.table.rows.map Chat.Attachment.id, store.attachments.last)

def sentIn (store : Chat.Store) (conversationId : ConversationId) : Bool :=
  store.attachments.table.rows.any fun row => row.messageId.any fun messageId =>
    (store.messages.find messageId).any fun message => message.conversationId = conversationId

theorem rowIds_linkToMessage {store next : Chat.Store} {attachmentIds : List Int} {messageId : MessageId}
    {ownerId : UserId} {linked : Nat}
    (done : Chat.AttachmentRepository.linkToMessage store attachmentIds messageId ownerId = .ok (next, linked)) :
    rowIds next = rowIds store := by
  refine foldlM_keeps (fun linked : Chat.Store × Nat => rowIds linked.1) (fun before id after linked => ?_) done
  simp only [Chat.AttachmentRepository.link] at linked
  have updated : rowIds after.1 = ((before.1.attachments.updateWhere (Chat.AttachmentRepository.linkable ownerId id)
      (fun row => { row with messageId := some messageId }) fun _ => rfl).table.rows.map Chat.Attachment.id,
        before.1.attachments.last) := by
    split at linked
    · obtain ⟨_, _, same⟩ := bind_eq_ok.mp linked
      cases same
      rfl
    · cases linked
      rfl
  rw [updated, Serial.map_key_updateWhere]
  rfl

theorem rowIds_removeConversation {store : Chat.Store} {conversationId : ConversationId}
    (unsent : sentIn store conversationId = false) :
    rowIds (Chat.ConversationRepository.remove store conversationId) = rowIds store := by
  unfold Chat.ConversationRepository.remove
  split
  · have none (row : Chat.Attachment) (member : row ∈ store.attachments.table.rows) :=
      Bool.eq_false_iff.mpr (List.any_eq_false.mp unsent row member)
    have kept := List.filter_eq_self.mpr fun row member => Bool.not_eq_true' _ |>.mpr (none row member)
    exact Prod.ext (congrArg (List.map Chat.Attachment.id) kept) rfl
  · rfl

/-- The rows of attachments come and go by uploads and removals, and by the deletion of a conversation. -/
theorem rowIds_transacts {now : TimePoint} {store next : Chat.Store} {action : Chat.Action}
    (transacts : Chat.Action.Transacts now store action next)
    (unsent : ∀ conversationId, action = .removeConversation conversationId → sentIn store conversationId = false) :
    rowIds next = rowIds store := by
  cases transacts with
  | reads | removeParticipant | updateLastRead => rfl
  | removeConversation conversationId => exact rowIds_removeConversation (unsent conversationId rfl)
  | createOrGetDirect created => exact (congrArg rowIds (Chat.createOrGetDirect_rooms created)).trans rfl
  | createGroup created => exact (congrArg rowIds (Chat.createGroup_rooms created)).trans rfl
  | addParticipant added => exact (congrArg rowIds (Chat.insertParticipant_rooms (Chat.addParticipant_inserted added))).trans rfl
  | transferOwnership transferred => exact (congrArg rowIds (Chat.transferOwnership_rooms transferred)).trans rfl
  | createMessage created => exact (congrArg rowIds (Chat.createMessage_stored created).2).trans rfl
  | linkToMessage done => exact rowIds_linkToMessage done
  | updateContent updated | softDelete updated => exact (congrArg rowIds (Chat.updateUndeleted_only updated)).trans rfl
  | upsertState upserted => exact (congrArg rowIds (Chat.upsertReceipt_only upserted)).trans rfl
  | markConversationRead marked => exact (congrArg rowIds (Chat.markConversationRead_only marked)).trans rfl

end Rows

namespace Calls

def takesAway (library : Library) (id : Int) : Action → Bool
  | .removeFile key => (library.media.find id).any fun media => media.keys.contains key
  | .remove target => target = id
  | _ => false

/-- An insert is accepted, a conversation that is deleted has no attachments in it, and a thumbnail is
entered for a row that is there and that nobody is removing. -/
def safe (pool : Calls) : Action → Bool
  | .create input => (AttachmentRepository.check pool.state input).isOk
  | .chat (.removeConversation conversationId) => !sentIn pool.state.backend.store conversationId
  | .updateMediaMeta id _ _ (some _) => (pool.state.backend.store.attachments.find id).isSome &&
      pool.calls.all fun call => !call.pending.any (takesAway pool.state id)
  | _ => true

/-- A token has not been drawn before, no critical action fails, and what is done is safe. -/
def careful (pool : Calls) : Calls.Label → Bool
  | .start operation => operation.token.all fun token => pool.calls.all fun call => call.operation.token ≠ some token
  | .move _ => true
  | .perform position failure =>
    let pending := pool.calls[position]?.bind Call.pending
    pending.all fun action => if failure.isSome then !action.critical else safe pool action

end Calls

variable {id : Int} {before after : Stage} {action : Action}

section View

/-- What the files, the rows and the jobs come to, with the calls in the given stages. -/
def Library.custody (library : Library) (stages : List Stage) (used : Set (List Char)) : Custody String (List Char) where
  stored := {key | (library.files key).isSome = true}
  entries := library.media.table.rows.map MediaColumns.entry
  present := {id | id ∈ (rowIds library.backend.store).1}
  tasks := library.jobs.map fun job => (job.attachmentId, job.baseKey)
  stages := stages
  used := used

def Library.Aligned (library : Library) : Prop := library.backend.store.attachments.last = library.media.last

variable {library next : Library} {stages : List Stage} {used : Set (List Char)} {position : Nat}

variable {input : NewAttachment} {attachment : Attachment} (files : String → Option Bytes) (key : String)
  (bytes : Bytes) (width height : Option Int)

theorem stored_openFile :
    {other | (Function.update files key (some bytes) other).isSome = true} =
      insert key {other | (files other).isSome = true} := by
  ext other
  by_cases same : other = key <;> simp [Function.update_apply, same]

theorem stored_writeFile :
    {other | (Function.update files key ((files key).map fun _ => bytes) other).isSome = true} =
      {other | (files other).isSome = true} := by
  ext other
  by_cases same : other = key <;> simp [Function.update_apply, same]

theorem stored_removeFile :
    {other | (Function.update files key none other).isSome = true} = {other | (files other).isSome = true} \ {key} := by
  ext other
  by_cases same : other = key <;> simp [Function.update_apply, same]

theorem custody_chat {backend : Chat.Backend} (same : rowIds backend.store = rowIds library.backend.store) :
    ({ library with backend := backend } : Library).custody stages used = library.custody stages used := by
  simp only [Library.custody, same]

theorem owner_of_check (checked : AttachmentRepository.check library input = .ok ()) :
    (library.backend.store.users.find input.ownerId).isSome = true := by
  unfold AttachmentRepository.check at checked
  split at checked
  · cases checked
  · unfold Chat.checkUser at checked
    split at checked
    · assumption
    · cases checked

theorem create_ok (aligned : library.Aligned)
    (created : AttachmentRepository.create library input = .ok (next, attachment)) :
    next.Aligned ∧ attachment.1.id = library.media.next ∧ next.custody stages used =
      { library.custody stages used with
        entries := (library.custody stages used).entries ++ [⟨library.media.next, input.storageKey, none⟩]
        present := insert library.media.next (library.custody stages used).present } := by
  obtain ⟨_, checked, same⟩ := bind_eq_ok.mp created
  cases same
  have known := owner_of_check checked
  have nextId : library.backend.store.attachments.next = library.media.next := congrArg (fun last : Nat => (last : Int) + 1) aligned
  refine ⟨?_, nextId, ?_⟩
  · simp only [Library.Aligned, Chat.AttachmentRepository.create, if_pos known]
    exact congrArg (· + 1) aligned
  · have present : {id | id ∈ (rowIds (Chat.AttachmentRepository.create library.backend.store input.ownerId)).1} =
        insert library.media.next {id | id ∈ (rowIds library.backend.store).1} := by
      ext id
      simp [rowIds, Chat.AttachmentRepository.create, known, Serial.append, nextId, or_comm]
    simp only [Library.custody, present, Serial.append, List.map_append, List.map_singleton]
    rfl

theorem findById_some (found : AttachmentRepository.findById library id = some attachment) :
    attachment.2.id = id ∧ attachment.2.entry ∈ (library.custody stages used).entries := by
  obtain ⟨row, _, found⟩ := Option.bind_eq_some_iff.mp found
  obtain ⟨media, stored, same⟩ := Option.bind_eq_some_iff.mp found
  cases same
  obtain ⟨member, same⟩ := Serial.find_eq_some.mp stored
  exact ⟨same, List.mem_map_of_mem member⟩

theorem entries_updateMediaMeta (media : Serial MediaColumns.id) (id : Int) (width height : Option Int)
    (thumbnail : Option String) :
    (media.updateWhere (fun media => media.id = id) (AttachmentRepository.setMediaMeta width height thumbnail)
      fun _ => rfl).table.rows.map MediaColumns.entry = (media.table.rows.map MediaColumns.entry).map fun entry =>
        if entry.id = id then { entry with extra := thumbnail.or entry.extra } else entry := by
  simp only [Serial.updateWhere, Table.updateWhere, List.map_map]
  refine List.map_congr_left fun row _ => ?_
  simp only [Function.comp_apply, decide_eq_true_eq]
  split
  · next same => rw [if_pos (show row.entry.id = id from same)]; rfl
  · next other => rw [if_neg (show row.entry.id ≠ id from other)]

theorem aligned_updateMediaMeta {width height : Option Int} {thumbnail : Option String} (aligned : library.Aligned) :
    (AttachmentRepository.updateMediaMeta library id width height thumbnail).Aligned := by
  unfold AttachmentRepository.updateMediaMeta
  split <;> exact aligned

theorem custody_measure (id : Int) (width height : Option Int) :
    (AttachmentRepository.updateMediaMeta library id width height none).custody stages used = library.custody stages used := by
  unfold AttachmentRepository.updateMediaMeta
  split
  · simp only [Library.custody, entries_updateMediaMeta, Option.none_or, ite_self, List.map_id']
  · rfl

theorem custody_remove (id : Int) :
    (AttachmentRepository.remove library id).custody stages used =
      { library.custody stages used with present := (library.custody stages used).present \ {id} } := by
  have present : {other | other ∈ (rowIds (Chat.AttachmentRepository.remove library.backend.store id)).1} =
      {other | other ∈ (rowIds library.backend.store).1} \ {id} := by
    ext other
    constructor
    · intro member
      obtain ⟨row, kept, rfl⟩ := List.mem_map.mp member
      obtain ⟨listed, different⟩ := List.mem_filter.mp kept
      exact ⟨List.mem_map_of_mem listed, by simpa using different⟩
    · rintro ⟨member, different⟩
      obtain ⟨row, listed, rfl⟩ := List.mem_map.mp member
      exact List.mem_map_of_mem (List.mem_filter.mpr ⟨listed, by simpa using different⟩)
  simp only [Library.custody, AttachmentRepository.remove, present]

theorem custody_record (sound : Custody.Sound tokenOf thumbnailKey (library.custody stages used)) {key : String}
    (found : stages[position]? = some (.framing id key)) (present : id ∈ (library.custody stages used).present)
    (width height : Option Int) (later : List Stage) :
    (AttachmentRepository.updateMediaMeta library id width height (some (thumbnailKey key))).custody later used =
      { library.custody later used with
        entries := (library.custody stages used).entries.map (Custody.record thumbnailKey id) } := by
  obtain ⟨own, ownListed, about⟩ := sound.task found rfl
  cases about
  obtain ⟨row, listed, same⟩ := List.mem_map.mp present
  have known : (library.backend.store.attachments.find own.id).isSome = true :=
    Option.isSome_iff_exists.mpr ⟨row, Serial.find_eq_some.mpr ⟨listed, same⟩⟩
  have entries : ((library.media.table.rows.map MediaColumns.entry).map fun entry =>
      if entry.id = own.id then { entry with extra := (some (thumbnailKey own.main)).or entry.extra } else entry) =
        (library.media.table.rows.map MediaColumns.entry).map (Custody.record thumbnailKey own.id) := by
    refine List.map_congr_left fun entry member => ?_
    unfold Custody.record
    split
    · next same => rw [sound.eq_of_id ownListed member same.symm, Option.some_or]
    · rfl
  simp only [AttachmentRepository.updateMediaMeta, if_pos known, Library.custody, entries_updateMediaMeta, entries]

theorem set_of_found {stage : Stage} (found : stages[position]? = some stage) : stages.set position stage = stages := by
  obtain ⟨within, rfl⟩ := List.getElem?_eq_some_iff.mp found
  exact List.set_getElem_self within

theorem custody_acted {value : action.Returned} (aligned : library.Aligned)
    (sound : Custody.Sound tokenOf thumbnailKey (library.custody stages used))
    (found : stages[position]? = some before) (leads : Leads before action (.ok value) after)
    (executed : action.exec library = .ok (next, value))
    (unsent : ∀ conversationId, action = .chat (.removeConversation conversationId) →
      sentIn library.backend.store conversationId = false)
    (untouched : ∀ id width height key, action = .updateMediaMeta id width height (some key) →
      id ∈ (library.custody stages used).present ∧ ¬ Custody.Emptying stages id) :
    next.Aligned ∧ (next.custody (stages.set position after) used = library.custody stages used ∨
      Custody.Moves tokenOf thumbnailKey (library.custody stages used) (next.custody (stages.set position after) used)) := by
  cases leads with
  | chats action =>
    obtain ⟨⟨backend, _⟩, done, same⟩ := map_eq_ok.mp executed
    cases same
    have ids := rowIds_transacts (Chat.Action.exec_transacts done) fun conversationId same => unsent conversationId (same ▸ rfl)
    refine ⟨(congrArg Prod.snd ids).trans aligned, .inl ?_⟩
    rw [set_of_found found]
    exact custody_chat ids
  | misses id =>
    cases executed
    exact ⟨aligned, .inl (by rw [set_of_found found])⟩
  | finds id attachment =>
    obtain rfl : library = next := congrArg Prod.fst (Except.ok.inj executed)
    obtain ⟨rfl, member⟩ := findById_some (congrArg Prod.snd (Except.ok.inj executed))
    exact ⟨aligned, .inr (.reads found member)⟩
  | waits =>
    have nothing : library.jobs = [] := List.head?_eq_none_iff.mp (congrArg Prod.snd (Except.ok.inj executed))
    obtain rfl : { library with jobs := library.jobs.tail } = next := congrArg Prod.fst (Except.ok.inj executed)
    refine ⟨aligned, .inl ?_⟩
    simp only [Library.custody, set_of_found found, nothing, List.tail_nil]
  | takes job =>
    obtain ⟨rest, jobs⟩ := List.head?_eq_some_iff.mp (congrArg Prod.snd (Except.ok.inj executed))
    obtain rfl : { library with jobs := library.jobs.tail } = next := congrArg Prod.fst (Except.ok.inj executed)
    refine ⟨aligned, .inr ?_⟩
    simp only [Library.custody, jobs, List.tail_cons]
    exact .takes found rfl
  | opens key =>
    cases executed
    refine ⟨aligned, .inr ?_⟩
    simp only [Library.custody, stored_openFile]
    exact .opens found
  | writes | draws =>
    cases executed
    refine ⟨aligned, .inl ?_⟩
    simp only [Library.custody, set_of_found found, stored_writeFile]
  | enters input attachment derives =>
    obtain ⟨nowAligned, given, view⟩ := create_ok aligned executed
    refine ⟨nowAligned, .inr ?_⟩
    rw [view, given]
    refine .enters found (fun entry member => ?_) derives
    obtain ⟨media, listed, rfl⟩ := List.mem_map.mp member
    exact ne_of_lt (Serial.lt_next listed)
  | submits job =>
    cases executed
    refine ⟨aligned, .inr ?_⟩
    simp only [Library.custody, List.map_append, List.map_singleton]
    exact .submits found
  | measures id key width height =>
    cases executed
    refine ⟨aligned_updateMediaMeta aligned, .inr ?_⟩
    rw [custody_measure]
    exact .quits found trivial
  | frames id key =>
    cases executed
    refine ⟨aligned, .inr ?_⟩
    simp only [Library.custody, stored_openFile]
    exact .frames found
  | records id key width height =>
    obtain ⟨present, kept⟩ := untouched id width height _ rfl
    cases executed
    refine ⟨aligned_updateMediaMeta aligned, .inr ?_⟩
    rw [custody_record sound found present]
    exact .records found present kept
  | unlinks id key left =>
    cases executed
    refine ⟨aligned, .inr ?_⟩
    simp only [Library.custody, stored_removeFile]
    exact .unlinks found
  | deletes id =>
    cases executed
    refine ⟨aligned, .inr ?_⟩
    rw [custody_remove]
    exact .deletes found

end View

section Simulation

variable {service : AttachmentService} {pool next : Calls} {stages : List Stage}

variable {operation : Operation} {trace : List Action} {error : AppException}

theorem tokens_set {calls : List (Call Operation Action Action.Returned AppException Answer)} {position : Nat}
    {script later : Plan Answer} {after : List Action} (found : calls[position]? = some ⟨operation, script, trace⟩) :
    (calls.set position ⟨operation, later, after⟩).map (fun call => call.operation.token) =
      calls.map fun call => call.operation.token := by
  have same : (calls.map fun call => call.operation.token)[position]? = some operation.token := by
    rw [List.getElem?_map, found]
    rfl
  obtain ⟨within, same⟩ := List.getElem?_eq_some_iff.mp same
  rw [List.map_set]
  exact same ▸ List.set_getElem_self within

theorem Leads.of_error (leads : Leads before action (.error error) after) :
    after = before ∨ after = .idle ∧ before.rests := by
  cases leads <;> first | exact .inl rfl | exact .inr ⟨rfl, trivial⟩

def Calls.used (pool : Calls) : Set (List Char) := {token | some token ∈ pool.calls.map fun call => call.operation.token}

/-- The calls are in their stages, and whatever does not match is in their hands. -/
structure Calls.Orderly (pool : Calls) (stages : List Stage) : Prop where
  linked : protocol.Linked pool.calls stages
  aligned : pool.state.Aligned
  sound : Custody.Sound tokenOf thumbnailKey (pool.state.custody stages pool.used)
  kept : Custody.Kept thumbnailKey (pool.state.custody stages pool.used)

namespace Calls

theorem Orderly.follow (orderly : pool.Orderly stages) {later : List Stage} (linked : protocol.Linked next.calls later)
    (aligned : next.state.Aligned)
    (moves : next.state.custody later next.used = pool.state.custody stages pool.used ∨
      Custody.Moves tokenOf thumbnailKey (pool.state.custody stages pool.used) (next.state.custody later next.used)) :
    next.Orderly later := by
  rcases moves with same | moves
  · exact ⟨linked, aligned, same ▸ orderly.sound, same ▸ orderly.kept⟩
  · exact ⟨linked, aligned, orderly.sound.step moves, orderly.kept.step orderly.sound moves⟩

theorem Orderly.untouched (orderly : pool.Orderly stages) (width height : Option Int) (key : String)
    (safe : pool.safe (.updateMediaMeta id width height (some key)) = true) :
    id ∈ (pool.state.custody stages pool.used).present ∧ ¬ Custody.Emptying stages id := by
  simp only [Calls.safe, Bool.and_eq_true] at safe
  obtain ⟨known, calls⟩ := safe
  obtain ⟨row, found⟩ := Option.isSome_iff_exists.mp known
  obtain ⟨member, rfl⟩ := Serial.find_eq_some.mp found
  refine ⟨List.mem_map_of_mem member, ?_⟩
  rintro ⟨left, listed⟩
  obtain ⟨entry, entryListed, same, within, _⟩ := orderly.kept.emptied _ _ listed
  obtain ⟨media, mediaListed, rfl⟩ := List.mem_map.mp entryListed
  obtain ⟨call, callListed, stands⟩ := orderly.linked.call listed
  obtain ⟨action, result, after, pending, leads⟩ := stands.pending (fun rests => rests)
  have harmless := List.all_eq_true.mp calls call callListed
  rw [pending, Option.any_some] at harmless
  -- Its next action takes a file that the row names, or the row.
  have takes : takesAway pool.state row.id action = true := by
    cases leads with
    | unlinks _ key left =>
      have stored : pool.state.media.find row.id = some media := Serial.find_eq_some.mpr ⟨mediaListed, same⟩
      rw [takesAway, stored, Option.any_some]
      exact List.contains_iff_mem.mpr (within List.mem_cons_self)
    | deletes => exact decide_eq_true rfl
  rw [takes] at harmless
  exact absurd harmless Bool.false_ne_true

theorem not_critical_of_refused (safe : pool.safe action = true) (refused : action.exec pool.state = .error error) :
    action.critical = false := by
  cases action with
  | create input =>
    have created : AttachmentRepository.create pool.state input = .error error := refused
    cases checked : AttachmentRepository.check pool.state input with
    | ok done =>
      rw [AttachmentRepository.create, checked] at created
      cases created
    | error =>
      rw [Calls.safe, checked] at safe
      cases safe
  | writeFile | removeFile | remove | updateMediaMeta => cases refused
  | _ => rfl

theorem Orderly.fail (orderly : pool.Orderly stages) {position : Nat}
    {after : Except AppException action.Returned → Plan Answer}
    (found : pool.calls[position]? = some ⟨operation, .act action after, trace⟩) (harmless : action.critical = false) :
    ∃ later, Orderly { pool with calls := pool.calls.set position ⟨operation, after (.error error), trace⟩ } later := by
  obtain ⟨before, stage, atPosition, leads, linked⟩ := orderly.linked.perform found (.inl harmless)
  have used : Calls.used { pool with calls := pool.calls.set position ⟨operation, after (.error error), trace⟩ } = pool.used := by
    rw [Calls.used, tokens_set found]
    rfl
  refine ⟨_, orderly.follow linked orderly.aligned ?_⟩
  rw [used]
  rcases leads.of_error with rfl | ⟨rfl, rests⟩
  · exact .inl (by rw [set_of_found atPosition])
  · exact .inr (.quits atPosition rests)

theorem custody_started {body : Plan Answer} (careful : pool.careful (.start operation) = true) :
    Custody.Moves tokenOf thumbnailKey (pool.state.custody stages pool.used)
      (pool.state.custody (stages ++ [operation.stage])
        (Calls.used { pool with calls := pool.calls ++ [⟨operation, body, []⟩] })) := by
  have used : Calls.used { pool with calls := pool.calls ++ [⟨operation, body, []⟩] } =
      {token | token ∈ pool.used ∨ operation.token = some token} := by
    ext token
    simp [Calls.used, eq_comm]
  rw [used, Operation.stage]
  cases drawn : operation.token with
  | none =>
    simp only [reduceCtorEq, or_false]
    exact .joins
  | some token =>
    simp only [Calls.careful, drawn, Option.all_some, List.all_eq_true, decide_eq_true_eq] at careful
    have fresh : token ∉ pool.used := by
      intro member
      obtain ⟨call, listed, same⟩ := List.mem_map.mp member
      exact careful call listed same
    have grown : {other | other ∈ pool.used ∨ some token = some other} = insert token pool.used := by
      ext other
      simp [or_comm, eq_comm]
    rw [grown]
    exact .draws fresh

theorem Orderly.step (orderly : pool.Orderly stages) {label : Calls.Label} (careful : pool.careful label = true)
    (effect : (library service).Effect pool label next) : ∃ later, next.Orderly later := by
  cases effect with
  | started operation =>
    refine ⟨stages ++ [operation.stage], orderly.follow (orderly.linked.concat (stands_body operation)) orderly.aligned ?_⟩
    exact .inr (custody_started careful)
  | moved now => exact ⟨stages, orderly.follow orderly.linked orderly.aligned (.inl rfl)⟩
  | @acted position operation action after trace state value found executed =>
    simp only [Calls.careful, found, Option.bind_some, Call.pending, Option.all_some] at careful
    obtain ⟨before, stage, atPosition, leads, linked⟩ := orderly.linked.perform found (.inr ⟨value, rfl⟩)
    obtain ⟨aligned, moves⟩ := custody_acted orderly.aligned orderly.sound atPosition leads executed
      (fun conversationId same => by simpa [same, Calls.safe] using careful)
      fun id width height key same => orderly.untouched width height key (same ▸ careful)
    refine ⟨_, orderly.follow linked aligned ?_⟩
    rwa [Calls.used, tokens_set found]
  | refused found executed =>
    simp only [Calls.careful, found, Option.bind_some, Call.pending, Option.all_some] at careful
    exact orderly.fail found (not_critical_of_refused careful executed)
  | failed error found =>
    simp only [Calls.careful, found, Option.bind_some, Call.pending, Option.all_some] at careful
    exact orderly.fail found (by simpa using careful)

theorem initial_orderly (users : UserTable) : (Calls.initial users).Orderly [] where
  linked := .nil
  aligned := rfl
  sound := ⟨List.nodup_nil, nofun, nofun, List.nodup_nil, nofun, nofun, nofun⟩
  kept := ⟨nofun, nofun, nofun, nofun, nofun⟩

end Calls

end Simulation

def Library.namedKeys (library : Library) : List String :=
  library.backend.store.attachments.table.rows.flatMap fun row =>
    (library.media.find row.id).elim [] MediaColumns.keys

def Library.Exact (library : Library) : Prop := ∀ key, (library.files key).isSome = true ↔ key ∈ library.namedKeys

theorem mem_namedKeys {library : Library} {stages : List Stage} {used : Set (List Char)} {key : String} :
    key ∈ library.namedKeys ↔ (library.custody stages used).Named key := by
  rw [Library.namedKeys, List.mem_flatMap]
  constructor
  · rintro ⟨row, listed, named⟩
    cases found : library.media.find row.id with
    | none =>
      rw [found] at named
      cases named
    | some media =>
      rw [found] at named
      obtain ⟨member, same⟩ := Serial.find_eq_some.mp found
      exact ⟨media.entry, List.mem_map_of_mem member, List.mem_map.mpr ⟨row, listed, same.symm⟩, named⟩
  · rintro ⟨entry, member, present, named⟩
    obtain ⟨media, listed, rfl⟩ := List.mem_map.mp member
    obtain ⟨row, rowListed, same⟩ := List.mem_map.mp present
    have found : library.media.find row.id = some media := Serial.find_eq_some.mpr ⟨listed, same.symm⟩
    exact ⟨row, rowListed, by rw [found]; exact named⟩

/-- In a run whose steps are all careful, whenever every call has come to its end the stored files
are exactly those that the rows name. -/
theorem files_match_rows {service : AttachmentService} {users : UserTable} {labels : List Calls.Label} {final : Calls}
    (guarded : (library service).step.Guarded (fun pool label => Calls.careful pool label = true) (Calls.initial users)
      labels)
    (runs : (library service).step.run (Calls.initial users) labels = some final) (finished : final.finished = true) :
    final.state.Exact := by
  obtain ⟨stages, orderly⟩ := Step.guarded_invariant (fun pool : Calls => ∃ stages, pool.Orderly stages)
    (fun ⟨_, orderly⟩ careful moves => orderly.step careful (System.step_effect moves))
    ⟨[], Calls.initial_orderly users⟩ guarded runs
  have exact := orderly.kept.exact (orderly.linked.rests finished)
  intro key
  rw [mem_namedKeys]
  exact Set.ext_iff.mp exact key

section Runs

def hexToken (digit : Char) : HexToken := ⟨List.replicate 32 digit, List.length_replicate⟩

def Calls.acts (position count : Nat) : List Calls.Label := List.replicate count (.perform position none)

def reversing : AttachmentService :=
  ⟨1000, 256, ⟨fun _ => true, fun _ => some ⟨2, 1⟩, fun bytes _ _ => some bytes.reverse⟩, fun _ => "checksum"⟩

/-- An image is uploaded and gets its thumbnail. A text is uploaded and removed, after the first
attempt has found no connection to the database. -/
def carefulRun : List Calls.Label :=
  .start (.upload ⟨1, "cat.png", "image/png", [1, 2]⟩ (hexToken 'a')) :: Calls.acts 0 4 ++
  .start .processImage :: Calls.acts 1 4 ++
  .start (.upload ⟨1, "notes.txt", "", [3]⟩ (hexToken 'b')) :: Calls.acts 2 3 ++
  .start (.remove 1 2) :: .perform 3 (some ⟨.database, "Database operation failed", ""⟩) ::
  .start (.remove 1 2) :: Calls.acts 4 3

theorem files_match_rows_framed :
    ∃ final, (library reversing).step.run (Calls.initial Chat.annAndBob) carefulRun = some final ∧ final.finished = true ∧
      final.state.namedKeys = [storageKey 1 (hexToken 'a') "cat.png", thumbnailKey (storageKey 1 (hexToken 'a') "cat.png")] ∧
      final.state.Exact := by
  have reached : ((library reversing).step.run (Calls.initial Chat.annAndBob) carefulRun).any fun final =>
      final.finished = true ∧ final.state.namedKeys =
        [storageKey 1 (hexToken 'a') "cat.png", thumbnailKey (storageKey 1 (hexToken 'a') "cat.png")] := by decide +kernel
  obtain ⟨final, runs, shown⟩ := (Option.any_eq_true _ _).mp reached
  obtain ⟨finished, keys⟩ := of_decide_eq_true shown
  exact ⟨final, runs, finished, keys, files_match_rows (by decide +kernel) runs finished⟩

/-- The limits and the processor of the application; checksums do not matter here. -/
def wired : AttachmentService := ⟨26214400, 256, .noop, fun _ => ""⟩

/-- A file is uploaded and sent, and the conversation is deleted. Nothing fails. -/
def deletion : List Calls.Label :=
  .start (.chat (.conversation (.create 1 ⟨.direct, none, [2]⟩))) :: Calls.acts 0 6 ++
  .start (.upload ⟨1, "notes.txt", "text/plain", [104, 105]⟩ (hexToken 'a')) :: Calls.acts 1 3 ++
  .start (.chat (.send 1 ⟨1, "here", .text, [1]⟩)) :: Calls.acts 2 7 ++
  .start (.chat (.conversation (.remove 1 1))) :: Calls.acts 3 6

theorem conversation_leaves_file :
    ∃ final, (library wired).step.run (Calls.initial Chat.annAndBob) deletion = some final ∧ final.finished = true ∧
      ¬ final.state.Exact := by
  have reached : ((library wired).step.run (Calls.initial Chat.annAndBob) deletion).any fun final =>
      final.finished = true ∧ (final.state.files (storageKey 1 (hexToken 'a') "notes.txt")).isSome = true ∧
        final.state.backend.store.attachments.table.rows = [] := by decide +kernel
  obtain ⟨final, runs, shown⟩ := (Option.any_eq_true _ _).mp reached
  obtain ⟨finished, stored, gone⟩ := of_decide_eq_true shown
  refine ⟨final, runs, finished, fun exact => ?_⟩
  have named := (exact _).mp stored
  rw [Library.namedKeys, gone] at named
  cases named

end Runs

end RealtimeChat.Media

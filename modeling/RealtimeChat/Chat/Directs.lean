import RealtimeChat.Chat.Pairs

/-! The direct conversation of two users.

It stays the conversation that has their key until it is deleted, so that
whoever of them creates it again in the meantime is answered with it.
-/

set_option autoImplicit false

namespace RealtimeChat.Chat

open Foundation Accounts ConversationRepository

def Keyed (store : Store) (conversationId : ConversationId) (key : String) : Prop :=
  ∃ row ∈ store.conversations, row.id = conversationId ∧ row.directKey = some key

def Retains (store next : Store) : Prop :=
  ∀ row ∈ store.conversations, ∃ new ∈ next.conversations, new.id = row.id ∧ new.directKey = row.directKey

variable {conversationId : ConversationId} {key : String}

theorem Retains.keyed {store next : Store} (retains : Retains store next) (keyed : Keyed store conversationId key) :
    Keyed next conversationId key := by
  obtain ⟨row, member, sameId, sameKey⟩ := keyed
  obtain ⟨new, newMember, newId, newKey⟩ := retains row member
  exact ⟨new, newMember, newId.trans sameId, newKey.trans sameKey⟩

theorem Retains.of_conversations {store next : Store} (same : next.conversations = store.conversations) :
    Retains store next :=
  fun row member => ⟨row, same ▸ member, rfl, rfl⟩

section Upsert

variable {store next : Store} {now : TimePoint} {first second : UserId} {conversation : Conversation}

theorem upsertDirect_retains (store : Store) (now : TimePoint) (key : String) :
    Retains store (upsertDirect store now key).1 := by
  intro row member
  unfold upsertDirect
  cases found : store.conversations.lookup key with
  | some holder =>
    rw [Indexed.upsert_of_some found]
    refine ⟨_, Serial.mem_updateWhere.mpr ⟨row, member, rfl⟩, ?_⟩
    split <;> exact ⟨rfl, rfl⟩
  | none =>
    refine ⟨row, ?_, rfl, rfl⟩
    rw [Indexed.mem_iff, (Indexed.upsert_of_none found).1]
    exact Serial.mem_append.mpr (Or.inl member)

theorem upsertDirect_keyed (store : Store) (now : TimePoint) (key : String) :
    Keyed (upsertDirect store now key).1 (upsertDirect store now key).2.id key := by
  unfold upsertDirect
  cases found : store.conversations.lookup key with
  | some holder =>
    obtain ⟨member, keyed⟩ := Indexed.lookup_eq_some found
    rw [Indexed.upsert_of_some found]
    exact ⟨holder.touch now, Serial.mem_updateWhere.mpr ⟨holder, member, by simp [keyed]⟩, rfl, keyed⟩
  | none =>
    refine ⟨directRow now key store.conversations.next, ?_, ?_, rfl⟩
    · rw [Indexed.mem_iff, (Indexed.upsert_of_none found).1]
      exact Serial.mem_append.mpr (Or.inr rfl)
    · dsimp only
      rw [(Indexed.upsert_of_none found).2]

theorem createOrGetDirect_keyed (created : createOrGetDirect store now first second = .ok (next, conversation)) :
    Keyed next conversation.id (directKey first second) ∧
      Member next conversation.id first ∧ Member next conversation.id second := by
  obtain ⟨upserted, joins⟩ := createOrGetDirect_steps created
  refine ⟨?_, (joins.members _ _).mpr (Or.inr ⟨rfl, Or.inl rfl⟩), (joins.members _ _).mpr (Or.inr ⟨rfl, Or.inr rfl⟩)⟩
  have keyed := upsertDirect_keyed store now (directKey first second)
  rw [upserted] at keyed
  exact (Retains.of_conversations joins.conversations).keyed keyed

theorem createOrGetDirect_same (keyed : Keyed store conversationId (directKey first second))
    (created : createOrGetDirect store now first second = .ok (next, conversation)) :
    conversation.id = conversationId := by
  obtain ⟨row, member, rfl, key⟩ := keyed
  obtain ⟨upserted, _⟩ := createOrGetDirect_steps created
  have sameId := (opens_upsertDirect store now first second).1
  rw [upserted] at sameId
  unfold directConversation at sameId
  cases found : store.conversations.lookup (directKey first second) with
  | none => exact absurd key (Indexed.lookup_eq_none.mp found row member)
  | some holder =>
    obtain ⟨holds, holderKey⟩ := Indexed.lookup_eq_some found
    rw [found] at sameId
    rw [Indexed.eq_of_index member holds key holderKey]
    exact sameId

theorem createGroup_retains {ownerId : UserId} {name : String} {memberIds : List UserId}
    (created : createGroup store now ownerId name memberIds = .ok (next, conversation)) : Retains store next := by
  obtain ⟨_, between, owner, members⟩ := createGroup_seats created
  intro row member
  refine ⟨row, ?_, rfl, rfl⟩
  rw [((addParticipant_ok owner).2.trans (seats_ok members)).conversations, Indexed.mem_append]
  exact Or.inl member

theorem remove_keyed {other : ConversationId} (different : other ≠ conversationId)
    (keyed : Keyed store conversationId key) :
    Keyed (ConversationRepository.remove store other) conversationId key := by
  unfold ConversationRepository.remove
  split
  · obtain ⟨row, member, rfl, sameKey⟩ := keyed
    exact ⟨row, Indexed.mem_deleteWhere.mpr ⟨member, by simpa using Ne.symm different⟩, rfl, sameKey⟩
  · exact keyed

end Upsert

section Runs

theorem Action.Transacts.keyed {now : TimePoint} {store next : Store} {action : Action}
    (transacts : Action.Transacts now store action next) (stays : action ≠ .removeConversation conversationId)
    (keyed : Keyed store conversationId key) : Keyed next conversationId key := by
  cases organizes : action.organizes with
  | false => exact (Retains.of_conversations (transacts.rooms organizes).1).keyed keyed
  | true =>
    cases transacts with
    | createOrGetDirect created =>
      have conversations := (createOrGetDirect_steps created).2.conversations
      exact (Retains.of_conversations conversations).keyed ((upsertDirect_retains _ _ _).keyed keyed)
    | createGroup created => exact (createGroup_retains created).keyed keyed
    | addParticipant added => exact (Retains.of_conversations (addParticipant_ok added).2.conversations).keyed keyed
    | removeParticipant | updateLastRead => exact keyed
    | transferOwnership transferred =>
      obtain ⟨_, rfl⟩ := transferOwnership_handOver transferred
      refine Retains.keyed (fun row member => ⟨_, Serial.mem_updateWhere.mpr ⟨row, member, rfl⟩, ?_⟩) keyed
      split <;> exact ⟨rfl, rfl⟩
    | removeConversation other =>
      refine remove_keyed ?_ keyed
      rintro rfl
      exact stays rfl
    | createMessage created =>
      obtain ⟨_, rfl⟩ := createMessage_stored created
      refine Retains.keyed (fun row member => ⟨_, Serial.mem_updateWhere.mpr ⟨row, member, rfl⟩, ?_⟩) keyed
      split <;> exact ⟨rfl, rfl⟩
    | reads other => exact absurd organizes (by simp [(Bool.or_eq_false_iff.mp other).1])
    | linkToMessage | updateContent | softDelete | upsertState | markConversationRead => cases organizes

structure Commits (pool : Calls) (position : Nat) (action : Action) (next : Calls) : Prop where
  takes : pool.taken (.perform position none : Calls.Label) = some action
  moves : chat.step pool (.perform position none) = some next

def Answered (pool : Calls) (position : Nat) (answer : Answer) : Prop :=
  ∃ call, pool.calls[position]? = some call ∧ call.script = .done (.ok answer)

def Spares (conversationId : ConversationId) (pool : Calls) (label : Calls.Label) : Prop :=
  pool.taken label ≠ some (.removeConversation conversationId)

variable {pool final : Calls} {labels : List Calls.Label} {position : Nat}

theorem keyed_run (keyed : Keyed pool.state.store conversationId key)
    (spares : chat.step.Guarded (Spares conversationId) pool labels) (runs : chat.step.run pool labels = some final) :
    Keyed final.state.store conversationId key := by
  refine Step.guarded_invariant (fun pool : Calls => Keyed pool.state.store conversationId key) ?_ keyed spares runs
  intro pool label next keyed spares moves
  cases System.step_effect moves with
  | acted found executed =>
    refine (Action.exec_transacts executed).keyed ?_ keyed
    rintro rfl
    exact spares (Pool.taken_perform found)
  | _ => exact keyed

theorem answered_ends {call : Call Request Action Action.Returned AppException Answer} {property : Answer → Prop}
    {answer : Answer} (found : pool.calls[position]? = some call) (ends : call.script.Ends property)
    (runs : chat.step.run pool labels = some final) (answered : Answered final position answer) : property answer := by
  obtain ⟨rest, restFound, restEnds⟩ := System.ends_run found ends runs
  obtain ⟨last, lastFound, done⟩ := answered
  obtain rfl := Option.some.inj (restFound.symm.trans lastFound)
  rw [done] at restEnds
  exact restEnds

theorem create_answered {next : Calls} {first second : UserId} {conversation : Conversation} (orderly : Orderly pool)
    (commits : Commits pool position (.createOrGetDirect first second) next)
    (runs : chat.step.run next labels = some final) (answered : Answered final position (.conversation conversation)) :
    createOrGetDirect pool.state.store pool.state.now first second = .ok (next.state.store, conversation) := by
  obtain ⟨takes, moves⟩ := commits
  have effect := System.step_effect moves
  generalize label : (Pool.Label.perform position none : Calls.Label) = shown at effect takes
  cases effect with
  | started | moved | failed => cases label
  | @acted _ _ action continuation _ _ value found executed =>
    cases label
    rw [Pool.taken_perform found] at takes
    cases takes
    have proper := (orderly.proper _ (List.mem_of_getElem? found)).1
    have within := (List.getElem?_eq_some_iff.mp found).1
    have same := answered_ends (List.getElem?_set_self within) (proper.2.1 value) runs answered
    cases same
    change (Action.createOrGetDirect first second).exec pool.state = _ at executed
    rw [Action.exec, Action.write_eq_ok] at executed
    obtain ⟨store, created, rfl⟩ := executed
    exact created
  | @refused _ _ action continuation _ error found executed =>
    cases label
    rw [Pool.taken_perform found] at takes
    cases takes
    have proper := (orderly.proper _ (List.mem_of_getElem? found)).1
    have within := (List.getElem?_eq_some_iff.mp found).1
    exact (answered_ends (List.getElem?_set_self within) (proper.2.2 error) runs answered).elim

/-- Two creates for the same users, with the conversation not deleted in between, are answered
with the same conversation, and the users are in it when the second one is stored. -/
theorem creates_agree {opened between closed after : Calls} {meanwhile rest : List Calls.Label} {other : Nat}
    {first second first' second' : UserId} {conversation conversation' : Conversation} (orderly : Orderly opened)
    (same : (first' = first ∧ second' = second) ∨ (first' = second ∧ second' = first))
    (one : Commits opened position (.createOrGetDirect first second) between)
    (runs : chat.step.run between meanwhile = some closed)
    (two : Commits closed other (.createOrGetDirect first' second') after)
    (ends : chat.step.run after rest = some final) (answer : Answered final position (.conversation conversation))
    (answer' : Answered final other (.conversation conversation'))
    (spares : chat.step.Guarded (Spares conversation.id) between meanwhile) :
    conversation'.id = conversation.id ∧ Member after.state.store conversation'.id first ∧
      Member after.state.store conversation'.id second := by
  have key : directKey first' second' = directKey first second := by
    rcases same with ⟨rfl, rfl⟩ | ⟨rfl, rfl⟩
    · rfl
    · exact directKey_comm first' second'
  have later : chat.step.run between (meanwhile ++ .perform other none :: rest) = some final := by
    rw [Step.run_append, runs]
    exact Step.run_cons.mpr ⟨after, two.moves, ends⟩
  have stored := create_answered orderly one later answer
  have again := create_answered ((orderly.step one.moves).run runs) two ends answer'
  have keyed := keyed_run (createOrGetDirect_keyed stored).1 spares runs
  rw [← key] at keyed
  obtain ⟨_, firstSeat, secondSeat⟩ := createOrGetDirect_keyed again
  refine ⟨createOrGetDirect_same keyed again, ?_⟩
  rcases same with ⟨rfl, rfl⟩ | ⟨rfl, rfl⟩
  · exact ⟨firstSeat, secondSeat⟩
  · exact ⟨secondSeat, firstSeat⟩

/-- In every state of every run of concurrent calls, a direct conversation is between two users,
two users have at most one, and nobody else is in it. Two creates for them, in either order
and with the conversation not deleted in between, are answered with the same conversation. -/
theorem direct_conversation_of_pair {pool opened : Calls} {labels : List Calls.Label} (idle : pool.calls = [])
    (seated : Seated pool.state.store) (paired : Paired pool.state.store)
    (runs : chat.step.run pool labels = some opened) :
    (∀ row ∈ opened.state.store.conversations, row.type = .direct → ∃ first second, Between row first second) ∧
    (∀ row ∈ opened.state.store.conversations, ∀ other ∈ opened.state.store.conversations, ∀ first second,
      Between row first second → Between other first second ∨ Between other second first → row = other) ∧
    (∀ row ∈ opened.state.store.conversations, ∀ first second, Between row first second →
      ∀ userId, Member opened.state.store row.id userId → userId = first ∨ userId = second) ∧
    (∀ (between closed after final : Calls) (meanwhile rest : List Calls.Label) (position other : Nat)
      (first second first' second' : UserId) (conversation conversation' : Conversation),
      (first' = first ∧ second' = second) ∨ (first' = second ∧ second' = first) →
      Commits opened position (.createOrGetDirect first second) between →
      chat.step.run between meanwhile = some closed →
      Commits closed other (.createOrGetDirect first' second') after →
      chat.step.run after rest = some final →
      Answered final position (.conversation conversation) → Answered final other (.conversation conversation') →
      chat.step.Guarded (Spares conversation.id) between meanwhile →
      conversation'.id = conversation.id ∧ Member after.state.store conversation'.id first ∧
        Member after.state.store conversation'.id second) := by
  have unstarted : ∀ call ∈ pool.calls, call.Bound chat Within (fun _ _ _ => True) pool.state := by simp [idle]
  obtain ⟨_, pairs⟩ := (chat_within.run unstarted runs).1.sound ⟨seated, paired⟩
  have orderly : Orderly opened := Orderly.run ⟨seated, by simp [idle]⟩ runs
  refine ⟨fun row member direct => ?_, fun row member other otherMember first second between either => ?_,
    fun row member first second between userId seat => ?_, ?_⟩
  · obtain ⟨first, second, between, _⟩ := pairs row member direct
    exact ⟨first, second, between⟩
  · have keyed : Between other first second := either.elim id Between.symm
    exact Indexed.eq_of_index member otherMember between.keyed keyed.keyed
  · obtain ⟨one, two, isBetween, members⟩ := pairs row member between.direct
    rcases directKey_inj (Option.some.inj (between.keyed.symm.trans isBetween.keyed)) with ⟨rfl, rfl⟩ | ⟨rfl, rfl⟩
    · exact members userId seat
    · exact (members userId seat).symm
  · intro between closed after final meanwhile rest position other first second first' second' conversation
      conversation' same one runs two ends answer answer' spares
    exact creates_agree orderly same one runs two ends answer answer' spares

theorem initial_paired (users : UserTable) : Paired (Calls.initial users).state.store :=
  fun _ member => absurd member Indexed.not_mem_empty

/-- Both users are about to store the direct conversation between them. -/
def bothChecked : List Calls.Label :=
  [.start (.conversation (.create 1 ⟨.direct, none, [2]⟩)), .start (.conversation (.create 2 ⟨.direct, none, [1]⟩)),
    .perform 0 none, .perform 1 none]

def Calls.conversationOf (pool : Calls) (position : Nat) : Option Conversation :=
  pool.calls[position]?.bind fun call =>
    match call.script with
    | .done (.ok (.conversation conversation)) => some conversation
    | _ => none

theorem Calls.answered {conversation : Conversation} (shown : conversationOf pool position = some conversation) :
    Answered pool position (.conversation conversation) := by
  obtain ⟨call, found, done⟩ := Option.bind_eq_some_iff.mp shown
  refine ⟨call, found, ?_⟩
  split at done
  · next answer script =>
    cases done
    exact script
  · cases done

theorem direct_conversation_of_pair_both :
    ∃ (after final : Calls) (conversation conversation' : Conversation),
      chat.step.run (Calls.initial annAndBob) (bothChecked ++ [.perform 0 none, .perform 1 none]) = some after ∧
      chat.step.run after (Calls.acts 0 4 ++ Calls.acts 1 4) = some final ∧
      Answered final 0 (.conversation conversation) ∧ Answered final 1 (.conversation conversation') ∧
      conversation'.id = conversation.id ∧ Member after.state.store conversation'.id 1 ∧
        Member after.state.store conversation'.id 2 := by
  have checked : (chat.step.run (Calls.initial annAndBob) bothChecked).any (fun opened =>
      opened.taken (.perform 0 none : Calls.Label) = some (.createOrGetDirect 1 2) &&
      (chat.step opened (.perform 0 none)).any fun between =>
        between.taken (.perform 1 none : Calls.Label) = some (.createOrGetDirect 2 1) &&
        (chat.step between (.perform 1 none)).any fun after =>
          (chat.step.run after (Calls.acts 0 4 ++ Calls.acts 1 4)).any fun final =>
            (Calls.conversationOf final 0).isSome && (Calls.conversationOf final 1).isSome) = true := by
    decide +kernel
  simp only [Option.any_eq_true, Bool.and_eq_true, decide_eq_true_eq, Option.isSome_iff_exists] at checked
  obtain ⟨opened, runs, takes, between, moves, takes', after, moves', final, ends, ⟨conversation, answer⟩,
    ⟨conversation', answer'⟩⟩ := checked
  have all := direct_conversation_of_pair rfl (initial_seated _) (initial_paired _) runs
  refine ⟨after, final, conversation, conversation', ?_, ends, Calls.answered answer, Calls.answered answer', ?_⟩
  · rw [Step.run_append, runs]
    exact Step.run_cons.mpr ⟨between, moves, Step.run_cons.mpr ⟨after, moves', rfl⟩⟩
  · exact all.2.2.2 between between after final [] _ 0 1 1 2 2 1 conversation conversation' (Or.inr ⟨rfl, rfl⟩)
      ⟨takes, moves⟩ rfl ⟨takes', moves'⟩ ends (Calls.answered answer) (Calls.answered answer') trivial

end Runs

end RealtimeChat.Chat

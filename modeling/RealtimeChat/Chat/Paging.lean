import RealtimeChat.Foundation.Paging
import RealtimeChat.Chat.Calls
import RealtimeChat.Chat.Listing

/-! Reading a conversation page by page.

A client scrolls back with `before` at the smallest id of the last page, and
catches up with `after` at the largest id it holds. The rows come newest first
either way. What the limit cuts off is therefore still ahead of a client that
scrolls back, and already behind one that catches up.
-/

set_option autoImplicit false

namespace RealtimeChat.Chat

open Foundation

variable {message : Message}

namespace MessageRepository

variable {text : TextFunctions} {store : Store} {filter : MessageQuery} {page : Pagination}

/-- All rows of a listing, before `LIMIT` and `OFFSET`. -/
def ordered (text : TextFunctions) (store : Store) (filter : MessageQuery) (page : Pagination) : List Message :=
  (store.messages.table.select (listed text filter page)).insertionSort fun first second => second.id ≤ first.id

theorem ordered_descends : (ordered text store filter page).Pairwise fun first second => second.id < first.id :=
  pairwise_sorted (store.messages.table.unique.sublist (List.filter_sublist.map _))

theorem mem_ordered : message ∈ ordered text store filter page ↔
    message ∈ store.messages ∧ listed text filter page message = true := by
  rw [ordered, List.mem_insertionSort, Table.select, List.mem_filter]
  exact Iff.rfl

theorem mem_of_mem_list (member : message ∈ list text store filter page) :
    message ∈ store.messages ∧ listed text filter page message = true :=
  mem_ordered.mp (List.mem_of_mem_drop (List.mem_of_mem_take member))

theorem listed_iff {limit offset : Nat} {before after : Option MessageId} {row : Message} :
    listed text filter ⟨limit, offset, before, after⟩ row = true ↔
      listed text filter {} row = true ∧ Below before row.id ∧ Above after row.id := by
  simp only [listed, Below, Above, Bool.and_eq_true, Option.all_eq_true, Option.all_none, and_true, decide_eq_true_eq,
    Option.mem_def, and_assoc]

end MessageRepository

open MessageRepository (ordered ordered_descends mem_ordered mem_of_mem_list listed_iff)

section ScrollingBack

variable (text : TextFunctions) (filter : MessageQuery) (limit : Nat) (after : Option MessageId)
  (stores : Nat → Store)

/-- The answer to the request of one turn. The store may have changed since the last one. -/
def historyPage (turn : Nat) (before : Option MessageId) : List Message :=
  MessageRepository.list text (stores turn) filter ⟨limit, 0, before, after⟩

/-- The pages a client receives that scrolls back from a starting point until a page is empty. -/
def scrollBack (fuel : Nat) (start : Option MessageId) : Option (List (List Message)) :=
  walk (historyPage text filter limit after stores) (fun _ rows => least Message.id rows) fuel 0 start

variable {text filter limit after stores}

theorem historyPage_descends : Descends Message.id (historyPage text filter limit after stores) where
  below _ _ _ member := (listed_iff.mp (mem_of_mem_list member).2).2.1
  sorted _ _ := ordered_descends.sublist (List.take_sublist _ _)

/-- Scrolling back ends, goes down, and receives once whatever is there to be listed all along. -/
theorem scrolling_back_complete (positive : 0 < limit) (start : Option MessageId) :
    ((∀ turn, ∀ message ∈ (stores turn).messages, 0 < message.id) →
      ∃ fuel, (scrollBack text filter limit after stores fuel start).isSome) ∧
    ∀ fuel pages, scrollBack text filter limit after stores fuel start = some pages →
      (pages.flatten.map Message.id).Pairwise (· > ·) ∧
      ∀ id, (∀ turn ≤ pages.length, ∃ message ∈ (stores turn).messages, message.id = id ∧
          MessageRepository.listed text filter {} message = true) →
        Above after id → Below start id → (pages.flatten.map Message.id).count id = 1 := by
  refine ⟨fun ids => ?_, fun fuel pages walked => ?_⟩
  · exact walk_descending_ends historyPage_descends (fun turn _ row member => ids turn row (mem_of_mem_list member).1)
      0 start
  have descending : (pages.flatten.map Message.id).Pairwise (· > ·) :=
    List.pairwise_map.mpr (walk_descending historyPage_descends walked).1
  refine ⟨descending, fun id matching above below => ?_⟩
  have offered : ∀ later ≤ pages.length, ∀ before, Below before id →
      Offers Message.id (historyPage text filter limit after stores (0 + later) before) id := by
    intro later within before ahead
    obtain ⟨message, stored, rfl, listed⟩ := matching later within
    rw [Nat.zero_add]
    exact offers_take ordered_descends positive (mem_ordered.mpr ⟨stored, listed_iff.mpr ⟨listed, ahead, above⟩⟩)
  exact List.count_eq_one_of_mem (descending.imp fun less => (ne_of_lt less).symm) (walk_covers walked offered below)

end ScrollingBack

def answered : Nat → Backend
  | 0 => greeted.state
  | times + 1 => ((MessageService.send 2 ⟨1, "again", .text, []⟩).run (answered times)).1

/-- After the first page, one message is deleted and another one written. -/
def meanwhile : Nat → Store
  | 0 => (answered 1).store
  | _ + 1 => ((MessageService.remove 2 2).run (answered 2)).1.store

theorem scrolling_back_complete_meanwhile :
    (∃ fuel, (scrollBack plainText ⟨1, none, none⟩ 1 none meanwhile fuel none).isSome) ∧
    ∃ pages, scrollBack plainText ⟨1, none, none⟩ 1 none meanwhile 3 none = some pages ∧
      (pages.flatten.map Message.id).Pairwise (· > ·) ∧ (pages.flatten.map Message.id).count 1 = 1 := by
  obtain ⟨ends, complete⟩ := @scrolling_back_complete plainText ⟨1, none, none⟩ 1 none meanwhile (by decide) none
  have ids : ∀ turn, ∀ message ∈ (meanwhile turn).messages, 0 < message.id
    | 0 => (by decide +kernel : ∀ message ∈ (meanwhile 0).messages.table.rows, 0 < message.id)
    | _ + 1 => (by decide +kernel : ∀ message ∈ (meanwhile 1).messages.table.rows, 0 < message.id)
  have stays : ∀ turn, ∃ message ∈ (meanwhile turn).messages, message.id = 1 ∧
      MessageRepository.listed plainText ⟨1, none, none⟩ {} message = true
    | 0 => (by decide +kernel : ∃ message ∈ (meanwhile 0).messages.table.rows, message.id = 1 ∧
        MessageRepository.listed plainText ⟨1, none, none⟩ {} message = true)
    | _ + 1 => (by decide +kernel : ∃ message ∈ (meanwhile 1).messages.table.rows, message.id = 1 ∧
        MessageRepository.listed plainText ⟨1, none, none⟩ {} message = true)
  obtain ⟨pages, walked⟩ := Option.isSome_iff_exists.mp (by decide +kernel :
    (scrollBack plainText ⟨1, none, none⟩ 1 none meanwhile 3 none).isSome)
  obtain ⟨descending, once⟩ := complete 3 pages walked
  exact ⟨ends ids, pages, walked, descending, once 1 (fun turn _ => stays turn) nofun nofun⟩

section CatchingUp

variable (text : TextFunctions) (conversationId : ConversationId) (limit : Nat) (store : Store)

/-- The answer to a client that asks for what is newer than the messages it holds. -/
def newerPage (_turn : Nat) (held : List Message) : List Message :=
  MessageRepository.list text store ⟨conversationId, none, none⟩ ⟨limit, 0, none, greatest Message.id held⟩

/-- The pages a client receives that keeps what it gets and asks on until a page is empty. -/
def catchUp (fuel : Nat) (held : List Message) : Option (List (List Message)) :=
  walk (newerPage text conversationId limit store) (fun held rows => held ++ rows) fuel 0 held

/-- A message of the conversation that is newer than all the client holds. -/
def Missing (held : List Message) (message : Message) : Prop :=
  message.conversationId = conversationId ∧ Above (greatest Message.id held) message.id

instance (held : List Message) (message : Message) : Decidable (Missing conversationId held message) :=
  inferInstanceAs (Decidable (_ ∧ _))

variable {text conversationId limit store} {held : List Message}

theorem listed_missing :
    MessageRepository.listed text ⟨conversationId, none, none⟩ ⟨limit, 0, none, greatest Message.id held⟩ message = true ↔
      Missing conversationId held message := by
  rw [listed_iff]
  simp [MessageRepository.listed, Missing, Below]

def newer (text : TextFunctions) (conversationId : ConversationId) (limit : Nat) (store : Store)
    (held : List Message) : List Message :=
  ordered text store ⟨conversationId, none, none⟩ ⟨limit, 0, none, greatest Message.id held⟩

theorem mem_newer : message ∈ newer text conversationId limit store held ↔
    message ∈ store.messages ∧ Missing conversationId held message := by
  rw [newer, mem_ordered, listed_missing]

theorem length_newer : (newer text conversationId limit store held).length =
    store.messages.table.affected fun message => Missing conversationId held message := by
  rw [newer, ordered, List.length_insertionSort, Table.select, Table.affected, List.countP_eq_length_filter]
  congr 1
  refine List.filter_congr fun message _ => ?_
  rw [Bool.eq_iff_iff, listed_missing, decide_eq_true_iff]

/-- The first page holds the newest message, so nothing is left to ask for. -/
theorem newerPage_after (nonempty : newerPage text conversationId limit store 0 held ≠ []) :
    newerPage text conversationId limit store 1 (held ++ newerPage text conversationId limit store 0 held) = [] := by
  refine List.eq_nil_iff_forall_not_mem.mpr fun message member => ?_
  obtain ⟨stored, conversation, above⟩ := mem_newer.mp (List.mem_of_mem_take member)
  rw [above_greatest] at above
  have missing : message ∈ newer text conversationId limit store held :=
    mem_newer.mpr ⟨stored, conversation, above_greatest.mpr fun own here => above own (List.mem_append_left _ here)⟩
  rcases mem_take_or_after ordered_descends missing limit with received | after
  · exact lt_irrefl _ (above message (List.mem_append_right _ received))
  · obtain ⟨first, listed⟩ := List.exists_mem_of_ne_nil _ nonempty
    exact lt_asymm (after first listed) (above first (List.mem_append_right _ listed))

theorem catchUp_received {fuel : Nat} {pages : List (List Message)}
    (walked : catchUp text conversationId limit store fuel held = some pages) :
    pages.flatten = (newer text conversationId limit store held).take limit := by
  by_cases empty : newerPage text conversationId limit store 0 held = []
  · cases fuel with
    | zero => cases walked
    | succ fuel =>
      rw [catchUp, walk_nil empty] at walked
      cases walked
      exact empty.symm
  · obtain ⟨_, rfl⟩ := (walk_once empty (newerPage_after empty)).mp walked
    exact List.flatten_singleton

theorem catchUp_ends : (catchUp text conversationId limit store 2 held).isSome := by
  by_cases empty : newerPage text conversationId limit store 0 held = []
  · rw [catchUp, walk_nil empty]
    rfl
  · rw [catchUp, (walk_once empty (newerPage_after empty)).mpr ⟨le_refl 2, rfl⟩]
    rfl

/-- Catching up ends, and it leaves nothing out exactly if one page holds all that was missing. -/
theorem catching_up_complete_iff (text : TextFunctions) (conversationId : ConversationId) (limit : Nat) (store : Store)
    (held : List Message) :
    (∃ fuel, (catchUp text conversationId limit store fuel held).isSome) ∧
    ∀ fuel pages, catchUp text conversationId limit store fuel held = some pages →
      ((∀ message ∈ store.messages, Missing conversationId held message → message ∈ held ++ pages.flatten) ↔
        (store.messages.table.affected fun message => Missing conversationId held message) ≤ limit) := by
  refine ⟨⟨2, catchUp_ends⟩, fun fuel pages walked => ?_⟩
  rw [catchUp_received walked, ← @length_newer text conversationId limit]
  have fresh {message : Message} (missing : Missing conversationId held message) : message ∉ held := fun own =>
    lt_irrefl _ (above_greatest.mp missing.2 message own)
  constructor
  · intro all
    have distinct : (newer text conversationId limit store held).Nodup := by
      refine List.Pairwise.imp ?_ ordered_descends
      rintro first _ less rfl
      exact lt_irrefl _ less
    have within : newer text conversationId limit store held ⊆ (newer text conversationId limit store held).take limit := by
      intro message member
      obtain ⟨stored, missing⟩ := mem_newer.mp member
      exact (List.mem_append.mp (all message stored missing)).resolve_left (fresh missing)
    exact le_trans (List.subperm_of_subset distinct within).length_le (List.length_take_le limit _)
  · intro few message stored missing
    rw [List.take_of_length_le few]
    exact List.mem_append_right _ (mem_newer.mpr ⟨stored, missing⟩)

end CatchingUp

/-- A client that holds the first message and misses two asks for one at a time: it receives the
newest one and then nothing. -/
theorem caught_up_with_gap :
    ∃ held pages, held = greeted.state.store.messages.table.rows ∧
      catchUp plainText 1 1 (answered 2).store 2 held = some pages ∧ (pages.map (·.map Message.id)) = [[3]] ∧
      ∃ message ∈ (answered 2).store.messages, Missing 1 held message ∧ message ∉ held ++ pages.flatten := by
  obtain ⟨pages, walked, shown⟩ := (Option.any_eq_true _ _).mp (by decide +kernel :
    (catchUp plainText 1 1 (answered 2).store 2 greeted.state.store.messages.table.rows).any fun pages =>
      pages.map (·.map Message.id) = [[3]] && (answered 2).store.messages.table.rows.any fun message =>
        decide (Missing 1 greeted.state.store.messages.table.rows message) &&
          decide (message ∉ greeted.state.store.messages.table.rows ++ pages.flatten))
  simp only [Bool.and_eq_true, decide_eq_true_eq, List.any_eq_true] at shown
  obtain ⟨received, message, stored, missing, absent⟩ := shown
  exact ⟨_, pages, rfl, walked, received, message, stored, missing, absent⟩

end RealtimeChat.Chat

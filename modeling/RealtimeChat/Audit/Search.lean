import RealtimeChat.Foundation.Paging
import RealtimeChat.Audit.Deliveries
import RealtimeChat.Chat.Listing

/-! Searching the audit log page by page.

The rows are sorted by the time of the event and the cursor is on the id, which
is drawn when the row is written. A row that is written late stands further down
than its id says, and a walk can lose it or rows around it.
-/

set_option autoImplicit false

namespace RealtimeChat.Audit

open Foundation Accounts Events
open Chat (Pagination)

structure AuditLogFilter where
  actorId : Option UserId := none
  eventType : Option String := none
  targetType : Option String := none
  targetId : Option String := none
  correlationId : Option String := none
  fromEpoch : Option TimePoint := none
  toEpoch : Option TimePoint := none
  deriving DecidableEq, Repr

namespace AuditLogRepository

/-- `kFilterPredicate`. A column without a value agrees with nothing. -/
def filterPredicate (filter : AuditLogFilter) (log : AuditLog) : Bool :=
  filter.actorId.all (fun actorId => log.actorId = some actorId) &&
    filter.eventType.all (fun eventType => log.eventType = eventType) &&
    filter.targetType.all (fun targetType => log.targetType = some targetType) &&
    filter.targetId.all (fun targetId => log.targetId = some targetId) &&
    filter.correlationId.all (fun correlationId => log.correlationId = some correlationId) &&
    filter.fromEpoch.all (fun fromEpoch => fromEpoch ≤ log.occurredAt) &&
    filter.toEpoch.all fun toEpoch => log.occurredAt ≤ toEpoch

def search (logs : AuditTable) (filter : AuditLogFilter) (page : Pagination) : List AuditLog :=
  -- `ORDER BY occurred_at DESC, id DESC`, while the cursors are on the id alone.
  page.slice ((logs.serial.table.select fun log => filterPredicate filter log &&
    page.beforeId.all (fun beforeId => log.id < beforeId) &&
    page.afterId.all fun afterId => afterId < log.id).insertionSort (DownBy AuditLog.occurredAt AuditLog.id))

def matchingLogs (logs : AuditTable) (filter : AuditLogFilter) : List AuditLog :=
  (logs.serial.table.select (filterPredicate filter)).insertionSort (DownBy AuditLog.occurredAt AuditLog.id)

variable {logs : AuditTable} {filter : AuditLogFilter} {limit : Nat}

theorem matchingLogs_perm : (matchingLogs logs filter).Perm (logs.rows.filter (filterPredicate filter)) :=
  List.perm_insertionSort _ _

theorem matchingLogs_nodup : (matchingLogs logs filter).Nodup :=
  matchingLogs_perm.nodup_iff.mpr (logs.serial.table.unique.of_map.filter _)

theorem search_eq_take (cursor : Option Int) :
    search logs filter ⟨limit, 0, cursor, none⟩ = (beyond AuditLog.id (matchingLogs logs filter) cursor).take limit := by
  have sorted (selects : AuditLog → Bool) :=
    filter_insertionSort (DownBy AuditLog.occurredAt AuditLog.id) (fun first second one two before after =>
      @Table.eq_of_key _ _ _ logs.serial.table _ _ one two (before.minor_eq after)) selects
  have selects : (fun log => filterPredicate filter log && cursor.all (fun beforeId => log.id < beforeId) && true) =
      fun log => decide (Below cursor log.id) && filterPredicate filter log := by
    funext log
    rw [Bool.eq_iff_iff]
    simp only [Bool.and_eq_true, and_true, decide_eq_true_iff, Option.all_eq_true, Below, Option.mem_def]
    exact and_comm
  rw [matchingLogs, beyond, Table.select, sorted, List.filter_filter, ← sorted, ← selects]
  rfl

end AuditLogRepository

open AuditLogRepository

/-- The pages of a client that walks the search with `before` at the id of the last row. -/
def searchPages (logs : AuditTable) (filter : AuditLogFilter) (limit fuel : Nat) : Option (List (List AuditLog)) :=
  walk (fun _ cursor => search logs filter ⟨limit, 0, cursor, none⟩) (fun _ rows => lastKey AuditLog.id rows) fuel 0 none

/-- The walk ends, and it returns each matching row exactly once exactly if, at the end of every page
of the sorted rows, the ids agree with the order. -/
theorem search_pages_exact_iff {limit : Nat} (positive : 0 < limit) (logs : AuditTable) (filter : AuditLogFilter) :
    (∃ fuel, (searchPages logs filter limit fuel).isSome) ∧
    ∀ fuel pages, searchPages logs filter limit fuel = some pages →
      (pages.flatten.Perm (logs.rows.filter (filterPredicate filter)) ↔
        Aligned AuditLog.id limit (matchingLogs logs filter)) := by
  have everything : beyond AuditLog.id (matchingLogs logs filter) none = matchingLogs logs filter := by
    simp [beyond, Below]
  simp only [searchPages, search_eq_take]
  refine ⟨cut_ends AuditLog.id limit (matchingLogs logs filter) 0 none, fun fuel pages walked => ?_⟩
  have exact := cut_exact_iff positive matchingLogs_nodup walked
  rw [everything] at exact
  exact (matchingLogs_perm.congr_right _).symm.trans exact

def signIn : DomainEvent :=
  ⟨.userLoggedIn, "7b2e", 9000000000, some 1, "", "", .object [("user_id", .number 1)]⟩

def delivered (deliveries : List (DomainEvent × TimePoint)) : Option AuditTable :=
  (deliveries.foldlM (deliver ann) (.empty _ _)).toOption

theorem search_pages_exact_iff_in_order :
    ∃ logs pages, delivered [(signOut, 10), (signIn, 11)] = some logs ∧ searchPages logs {} 1 3 = some pages ∧
      pages.map (·.map AuditLog.id) = [[2], [1]] ∧ pages.flatten.Perm (logs.rows.filter (filterPredicate {})) := by
  obtain ⟨logs, written, shown⟩ := (Option.any_eq_true _ _).mp (by decide +kernel :
    (delivered [(signOut, 10), (signIn, 11)]).any fun logs =>
      ((matchingLogs logs {}).map AuditLog.id).Pairwise (· > ·) &&
        (searchPages logs {} 1 3).any fun pages => pages.map (·.map AuditLog.id) = [[2], [1]])
  simp only [Bool.and_eq_true, decide_eq_true_eq, Option.any_eq_true] at shown
  obtain ⟨sorted, pages, walked, ids⟩ := shown
  have aligned : Aligned AuditLog.id 1 (matchingLogs logs {}) :=
    aligned_of_pairwise (by decide) (List.pairwise_map.mp sorted)
  exact ⟨logs, pages, written, walked, ids,
    ((search_pages_exact_iff (by decide) logs {}).2 3 pages walked).mpr aligned⟩

/-- The sign-out is recorded late: the walk stops at the sign-in and never returns it. -/
theorem late_row_lost :
    ∃ logs pages, delivered [(signIn, 10), (signOut, 11)] = some logs ∧ searchPages logs {} 1 2 = some pages ∧
      pages.map (·.map AuditLog.id) = [[1]] ∧
      ∃ log ∈ logs.rows, filterPredicate {} log = true ∧ log ∉ pages.flatten := by
  obtain ⟨logs, written, shown⟩ := (Option.any_eq_true _ _).mp (by decide +kernel :
    (delivered [(signIn, 10), (signOut, 11)]).any fun logs =>
      logs.rows.any (fun log => log.id = 2 && filterPredicate {} log) &&
        (searchPages logs {} 1 2).any fun pages => pages.map (·.map AuditLog.id) = [[1]])
  simp only [Bool.and_eq_true, decide_eq_true_eq, Option.any_eq_true, List.any_eq_true] at shown
  obtain ⟨⟨log, stored, second, matching⟩, pages, walked, ids⟩ := shown
  refine ⟨logs, pages, written, walked, ids, log, stored, matching, fun member => ?_⟩
  have listed : log.id ∈ (pages.map (·.map AuditLog.id)).flatten := by
    rw [← List.map_flatten]
    exact List.mem_map_of_mem member
  rw [ids, second] at listed
  simp at listed

end RealtimeChat.Audit

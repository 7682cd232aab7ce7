import RealtimeChat.Audit.Service

/-! What the audit log holds after events have been delivered to it.

The bus delivers an event at least once, in no fixed order. The first delivery
of an audited event writes its row and the others find it there, so that the
rows depend on the events and the users alone.
-/

set_option autoImplicit false

namespace RealtimeChat.Audit

open Foundation Accounts Events AuditLogRepository AuditService

/-- The event's fields fit the columns of its row, of which `actor_id` refers to a user. -/
structure Fits (users : UserTable) (event : DomainEvent) : Prop where
  widths : ∀ column ∈ columns (rowOf users event), ∀ text ∈ column.2, text.length ≤ column.1
  payload : ∀ text ∈ event.payload.strings, '\x00' ∉ text.toList
  actor : ∀ actorId ∈ event.actorId, (users.find actorId).isSome

def deliver (users : UserTable) (logs : AuditTable) (delivery : DomainEvent × TimePoint) : Result AuditTable :=
  (record users logs delivery.1 delivery.2).map Prod.fst

/-- An event that has been recorded, with the id and the time of insertion of its row. -/
structure Entry where
  event : DomainEvent
  id : Int
  now : TimePoint

def Entry.row (users : UserTable) (entry : Entry) : AuditLog := logRow (rowOf users entry.event) entry.now entry.id

theorem checkActor_fits {users : UserTable} {event : DomainEvent} (fits : Fits users event) :
    checkActor users event.actorId = .ok () := by
  cases acts : event.actorId with
  | none => rfl
  | some actorId => exact if_pos (fits.actor actorId acts)

section Delivery

variable {users : UserTable} {before logs : AuditTable} {entries : List Entry} {event : DomainEvent}

/-- The first delivery of an audited event writes its row and any other leaves the log alone. -/
theorem deliver_audited (fits : Fits users event) (audited : isAuditable event.type = true) (now : TimePoint) :
    (∃ log ∈ logs, log.eventId = event.eventId) ∧ deliver users logs (event, now) = .ok logs ∨
    (∀ log ∈ logs, log.eventId ≠ event.eventId) ∧ ∃ next : AuditTable, deliver users logs (event, now) = .ok next ∧
      next.rows = logs.rows ++ [Entry.row users ⟨event, logs.next, now⟩] := by
  have widths : Database.tooLong (columns (rowOf users event)) = none := Database.tooLong_eq_none.mpr
    fun column member text there => Database.fits_of_length (fits.widths column member text there)
  have plain : ((rowOf users event).metadata.strings.any fun text => '\x00' ∈ text.toList) = false := by
    simpa [rowOf] using fits.payload
  have same : deliver users logs (event, now) = (append users logs (rowOf users event) now).map Prod.fst := by
    simp only [deliver, record, if_pos audited]
  rw [same, append, widths]
  simp only [plain, Bool.false_eq_true, if_false]
  cases inserted : logs.insert (rowOf users event).eventId (logRow (rowOf users event) now) (logRow_id _ now)
      (logRow_dedupKey _ now) with
  | none =>
    obtain ⟨log, member, key⟩ := Indexed.insert_eq_none.mp inserted
    exact Or.inl ⟨⟨log, member, Option.some.inj key⟩, rfl⟩
  | some next =>
    refine Or.inr ⟨fun log member key => ?_, next, ?_, ?_⟩
    · have taken : log.dedupKey = some (rowOf users event).eventId := congrArg some key
      rw [Indexed.insert_eq_none.mpr ⟨log, member, taken⟩] at inserted
      cases inserted
    · have known : checkActor users (rowOf users event).actorId = .ok () := checkActor_fits fits
      simp only [known]
      rfl
    · exact congrArg (fun serial => serial.table.rows) (Indexed.insert_eq_some inserted)

/-- The log holds the rows it held before and one for each entry, none of them twice. -/
structure Holds (users : UserTable) (before logs : AuditTable) (entries : List Entry) : Prop where
  rows : logs.rows = before.rows ++ entries.map (Entry.row users)
  once : (entries.map Entry.event).Nodup

variable {events : List DomainEvent}

section

variable (holds : Holds users before logs entries) (distinct : (events.map DomainEvent.eventId).Nodup)

include holds distinct

theorem Holds.mem_entries (among : ∀ entry ∈ entries, entry.event ∈ events)
    (listed : event ∈ events) (unrecorded : ∀ log ∈ before, log.eventId ≠ event.eventId) :
    event ∈ entries.map Entry.event ↔ ∃ log ∈ logs, log.eventId = event.eventId := by
  constructor
  · intro recorded
    obtain ⟨entry, member, rfl⟩ := List.mem_map.mp recorded
    refine ⟨entry.row users, ?_, rfl⟩
    rw [← Indexed.mem_rows, holds.rows]
    exact List.mem_append_right _ (List.mem_map_of_mem member)
  · rintro ⟨log, member, key⟩
    rw [← Indexed.mem_rows, holds.rows] at member
    rcases List.mem_append.mp member with old | new
    · exact absurd key (unrecorded log old)
    · obtain ⟨entry, entered, rfl⟩ := List.mem_map.mp new
      have same := List.inj_on_of_nodup_map distinct (among entry entered) listed key
      exact same ▸ List.mem_map_of_mem entered

theorem Holds.deliver
    (among : ∀ entry ∈ entries, entry.event ∈ events) (fits : Fits users event) (listed : event ∈ events)
    (unrecorded : ∀ log ∈ before, log.eventId ≠ event.eventId) (now : TimePoint) :
    ∃ next more, Audit.deliver users logs (event, now) = .ok next ∧ Holds users before next (entries ++ more) ∧
      ∀ other, other ∈ (entries ++ more).map Entry.event ↔
        other ∈ entries.map Entry.event ∨ other = event ∧ isAuditable event.type = true := by
  have recorded := holds.mem_entries distinct among listed unrecorded
  cases audited : isAuditable event.type with
  | false => exact ⟨logs, [], by simp [Audit.deliver, record, audited, Except.map], by simpa using holds, by simp⟩
  | true =>
    rcases deliver_audited fits audited now with ⟨found, same⟩ | ⟨absent, next, done, rows⟩
    · refine ⟨logs, [], same, by simpa using holds, fun other => ?_⟩
      rw [List.append_nil]
      refine (or_iff_left_of_imp ?_).symm
      rintro ⟨rfl, _⟩
      exact recorded.mpr found
    · refine ⟨next, [⟨event, logs.next, now⟩], done, ⟨?_, ?_⟩, by simp⟩
      · rw [rows, holds.rows, List.append_assoc, List.map_append]
        rfl
      · have new : event ∉ entries.map Entry.event := fun old => by
          obtain ⟨log, member, key⟩ := recorded.mp old
          exact absent log member key
        rw [List.map_append]
        exact List.concat_eq_append ▸ holds.once.concat new

theorem Holds.deliveries {deliveries : List (DomainEvent × TimePoint)} (fits : ∀ event ∈ events, Fits users event)
    (unrecorded : ∀ event ∈ events, ∀ log ∈ before, log.eventId ≠ event.eventId)
    (among : ∀ entry ∈ entries, entry.event ∈ events) (listed : ∀ delivery ∈ deliveries, delivery.1 ∈ events) :
    ∃ final more, deliveries.foldlM (Audit.deliver users) logs = .ok final ∧
      Holds users before final (entries ++ more) ∧ ∀ event, event ∈ (entries ++ more).map Entry.event ↔
        event ∈ entries.map Entry.event ∨ (∃ now, (event, now) ∈ deliveries) ∧ isAuditable event.type = true := by
  induction deliveries generalizing logs entries with
  | nil => exact ⟨logs, [], rfl, by simpa using holds, by simp⟩
  | cons delivery rest ih =>
    obtain ⟨event, now⟩ := delivery
    have here := listed _ List.mem_cons_self
    obtain ⟨between, first, delivered, held, told⟩ :=
      holds.deliver distinct among (fits event here) here (unrecorded event here) now
    have known : ∀ entry ∈ entries ++ first, entry.event ∈ events := fun entry member => by
      rcases (told entry.event).mp (List.mem_map_of_mem member) with old | ⟨same, _⟩
      · obtain ⟨other, entered, same⟩ := List.mem_map.mp old
        exact same ▸ among other entered
      · exact same ▸ here
    obtain ⟨final, more, done, heldAfter, toldAfter⟩ :=
      ih held known fun delivery member => listed delivery (List.mem_cons_of_mem _ member)
    refine ⟨final, first ++ more, bind_eq_ok.mpr ⟨between, delivered, done⟩, ?_, fun other => ?_⟩
    · rwa [← List.append_assoc]
    · rw [← List.append_assoc, toldAfter, told]
      simp only [List.mem_cons, Prod.mk.injEq, or_assoc]
      refine or_congr_right ⟨?_, ?_⟩
      · rintro (⟨rfl, audited⟩ | ⟨⟨later, member⟩, audited⟩)
        · exact ⟨⟨now, Or.inl ⟨rfl, rfl⟩⟩, audited⟩
        · exact ⟨⟨later, Or.inr member⟩, audited⟩
      · rintro ⟨⟨later, ⟨rfl, _⟩ | member⟩, audited⟩
        · exact Or.inl ⟨rfl, audited⟩
        · exact Or.inr ⟨⟨later, member⟩, audited⟩

end

end Delivery

/-- Events with distinct ids, delivered at least once each, in any order and as often as it may be,
leave exactly one row for each of them that is audited and none for the others. Only the row's id
and its time of insertion depend on the deliveries. -/
theorem deliveries_recorded {users : UserTable} {before : AuditTable} {events : List DomainEvent}
    {deliveries : List (DomainEvent × TimePoint)} (distinct : (events.map DomainEvent.eventId).Nodup)
    (fits : ∀ event ∈ events, Fits users event)
    (unrecorded : ∀ event ∈ events, ∀ log ∈ before, log.eventId ≠ event.eventId)
    (listed : ∀ delivery ∈ deliveries, delivery.1 ∈ events)
    (covered : ∀ event ∈ events, ∃ now, (event, now) ∈ deliveries) :
    ∃ (final : AuditTable) (entries : List Entry), deliveries.foldlM (deliver users) before = .ok final ∧
      final.rows = before.rows ++ entries.map (Entry.row users) ∧
      (entries.map Entry.event).Perm (events.filter fun event => isAuditable event.type) := by
  have initially : Holds users before before [] := ⟨by simp, List.nodup_nil⟩
  obtain ⟨final, entries, done, held, told⟩ := initially.deliveries distinct fits unrecorded (by simp) listed
  refine ⟨final, entries, done, held.rows, ?_⟩
  refine (List.perm_ext_iff_of_nodup held.once (distinct.of_map _ |>.filter _)).mpr fun event => ?_
  have delivered : (∃ now, (event, now) ∈ deliveries) ↔ event ∈ events :=
    ⟨fun ⟨_, member⟩ => listed _ member, covered event⟩
  rw [List.mem_filter, ← delivered]
  simpa using told event

def signOut : DomainEvent :=
  ⟨.userLoggedOut, "4f1a", 5000000000, some 1, "", "", .object [("user_id", .number 1)]⟩

def message : DomainEvent :=
  ⟨.messageSent, "9c03", 6000000000, some 1, "", "", .object [("message_id", .number 1)]⟩

/-- The sign-out is delivered twice, with the message in between. -/
theorem deliveries_recorded_repeated : ∃ (final : AuditTable) (entries : List Entry),
      [(signOut, 10), (message, 11), (signOut, 12)].foldlM (deliver ann) (.empty _ _) = .ok final ∧
      final.rows = [] ++ entries.map (Entry.row ann) ∧
      (entries.map Entry.event).Perm ([message, signOut].filter fun event => isAuditable event.type) := by
  have fits : ∀ event ∈ [message, signOut], Fits ann event := by
    simp only [List.forall_mem_cons, List.not_mem_nil, false_implies, implies_true, and_true]
    exact ⟨⟨by decide, by decide, by decide⟩, ⟨by decide, by decide, by decide⟩⟩
  have covered : ∀ event ∈ [message, signOut], ∃ now,
      (event, now) ∈ [(signOut, 10), (message, 11), (signOut, (12 : TimePoint))] := by
    simp only [List.forall_mem_cons, List.not_mem_nil, false_implies, implies_true, and_true]
    exact ⟨⟨11, by simp⟩, ⟨10, by simp⟩⟩
  exact deliveries_recorded (by decide) fits (fun _ _ _ member => absurd member Indexed.not_mem_empty) (by simp) covered

end RealtimeChat.Audit

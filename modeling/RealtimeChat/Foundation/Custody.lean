import RealtimeChat.Foundation.Positions
import Mathlib.Data.Set.Insert

/-! Objects in one store and the rows that name them in another.

The two stores have no transaction in common, so between the steps of a call an
object may be without a row, or a row without its object. Each call is in a
stage that says what it has in hand: an object that it has stored and has not
entered yet, or the objects of a row that it is removing. As long as every step
is taken, whatever does not match is in somebody's hands, and when all calls have
ended the objects are exactly those that rows name.
-/

set_option autoImplicit false

namespace RealtimeChat.Foundation

/-- What a row says of its objects: one that every row has and one that is derived from it. -/
structure Entry (Key : Type) where
  id : Int
  main : Key
  extra : Option Key

def Entry.keys {Key : Type} (entry : Entry Key) : List Key := entry.main :: entry.extra.toList

namespace Custody

inductive Stage (Key Token : Type) where
  | idle
  /-- A token has been drawn for the key of a new object. -/
  | drawn (token : Token)
  /-- The object has been stored and its row has not. -/
  | holding (key : Key)
  /-- The row is there, and an object may be derived from its own. -/
  | tasked (id : Int) (key : Key)
  /-- The derived object has been stored and the row does not name it yet. -/
  | framing (id : Int) (key : Key)
  /-- The objects of the row are removed one after the other, and then the row. -/
  | emptying (id : Int) (left : List Key)

end Custody

open Custody (Stage)

structure Custody (Key Token : Type) where
  stored : Set Key
  entries : List (Entry Key)
  present : Set Int
  tasks : List (Int × Key)
  stages : List (Stage Key Token)
  used : Set Token

variable {Key Token : Type}

namespace Custody

def Stage.stray (derive : Key → Key) : Stage Key Token → Option Key
  | .holding key => some key
  | .framing _ key => some (derive key)
  | _ => none

def Stage.token (tokenOf : Key → Token) : Stage Key Token → Option Token
  | .drawn token => some token
  | .holding key => some (tokenOf key)
  | _ => none

def Stage.task : Stage Key Token → Option (Int × Key)
  | .tasked id key | .framing id key => some (id, key)
  | _ => none

def Stage.rests : Stage Key Token → Prop
  | .idle | .drawn _ | .tasked _ _ => True
  | _ => False

def Named (custody : Custody Key Token) (key : Key) : Prop :=
  ∃ entry ∈ custody.entries, entry.id ∈ custody.present ∧ key ∈ entry.keys

def Exact (custody : Custody Key Token) : Prop := custody.stored = {key | custody.Named key}

def Emptying (stages : List (Stage Key Token)) (id : Int) : Prop := ∃ left, .emptying id left ∈ stages

def record (derive : Key → Key) (id : Int) (entry : Entry Key) : Entry Key :=
  if entry.id = id then { entry with extra := some (derive entry.main) } else entry

/-- The task is about a row that there has been. -/
def Entered (entries : List (Entry Key)) (task : Int × Key) : Prop :=
  ∃ entry ∈ entries, (entry.id, entry.main) = task

theorem record_id (derive : Key → Key) (id : Int) (entry : Entry Key) : (record derive id entry).id = entry.id := by
  unfold record
  split <;> rfl

theorem record_main (derive : Key → Key) (id : Int) (entry : Entry Key) : (record derive id entry).main = entry.main := by
  unfold record
  split <;> rfl

variable {id : Int} {entry : Entry Key} {key : Key} {stage : Stage Key Token} {stored : Set Key}
  {tasks : List (Int × Key)} {next : Custody Key Token}

theorem record_of_ne {derive : Key → Key} (other : entry.id ≠ id) : record derive id entry = entry := if_neg other

theorem mem_keys_record {derive : Key → Key} (derived : ∀ extra ∈ entry.extra, extra = derive entry.main) :
    key ∈ (record derive id entry).keys ↔ key ∈ entry.keys ∨ entry.id = id ∧ key = derive entry.main := by
  unfold record
  split
  · next same =>
    have extra : key ∈ entry.extra → key = derive entry.main := derived key
    simp only [Entry.keys, List.mem_cons, Option.mem_toList]
    grind
  · next other => simp [other]

def enter (custody : Custody Key Token) (position : Nat) (id : Int) (key : Key) : Custody Key Token :=
  { custody with
    stages := custody.stages.set position (.tasked id key)
    entries := custody.entries ++ [⟨id, key, none⟩]
    present := insert id custody.present }

def complete (custody : Custody Key Token) (position : Nat) (derive : Key → Key) (id : Int) : Custody Key Token :=
  { custody with
    stages := custody.stages.set position .idle
    entries := custody.entries.map (record derive id) }

section Steps

variable (tokenOf : Key → Token) (derive : Key → Key)

inductive Moves (custody : Custody Key Token) : Custody Key Token → Prop where
  | joins : Moves custody { custody with stages := custody.stages ++ [.idle] }
  | draws {token : Token} (fresh : token ∉ custody.used) : Moves custody
      { custody with stages := custody.stages ++ [.drawn token], used := insert token custody.used }
  | quits {position : Nat} {stage : Stage Key Token} (found : custody.stages[position]? = some stage) (rests : stage.rests) :
      Moves custody { custody with stages := custody.stages.set position .idle }
  | reads {position : Nat} {entry : Entry Key} (found : custody.stages[position]? = some .idle)
      (member : entry ∈ custody.entries) :
      Moves custody { custody with stages := custody.stages.set position (.emptying entry.id entry.keys) }
  | submits {position : Nat} {id : Int} {key : Key} (found : custody.stages[position]? = some (.tasked id key)) :
      Moves custody
        { custody with stages := custody.stages.set position .idle, tasks := custody.tasks ++ [(id, key)] }
  | takes {position : Nat} {id : Int} {key : Key} {rest : List (Int × Key)}
      (found : custody.stages[position]? = some .idle) (waiting : custody.tasks = (id, key) :: rest) : Moves custody
      { custody with stages := custody.stages.set position (.tasked id key), tasks := rest }
  | opens {position : Nat} {key : Key} (found : custody.stages[position]? = some (.drawn (tokenOf key))) : Moves custody
      { custody with stages := custody.stages.set position (.holding key), stored := insert key custody.stored }
  | enters {position : Nat} {key : Key} {id : Int} (found : custody.stages[position]? = some (.holding key))
      (fresh : ∀ entry ∈ custody.entries, entry.id ≠ id) (derives : tokenOf (derive key) = tokenOf key) :
      Moves custody (custody.enter position id key)
  | frames {position : Nat} {id : Int} {key : Key} (found : custody.stages[position]? = some (.tasked id key)) :
      Moves custody
        { custody with
          stages := custody.stages.set position (.framing id key)
          stored := insert (derive key) custody.stored }
  | records {position : Nat} {id : Int} {key : Key} (found : custody.stages[position]? = some (.framing id key))
      (present : id ∈ custody.present) (kept : ¬ Emptying custody.stages id) :
      Moves custody (custody.complete position derive id)
  | unlinks {position : Nat} {id : Int} {key : Key} {left : List Key}
      (found : custody.stages[position]? = some (.emptying id (key :: left))) : Moves custody
      { custody with
        stages := custody.stages.set position (.emptying id left)
        stored := custody.stored \ {key} }
  | deletes {position : Nat} {id : Int} (found : custody.stages[position]? = some (.emptying id [])) : Moves custody
      { custody with stages := custody.stages.set position .idle, present := custody.present \ {id} }

/-- The tokens of the objects that have been entered and of those that will be. -/
def tokens (custody : Custody Key Token) : List Token :=
  custody.entries.map (fun entry => tokenOf entry.main) ++ custody.stages.filterMap (Stage.token tokenOf)

/-- No two objects have their keys from the same token, and a task is about a row that there has been. -/
structure Sound (custody : Custody Key Token) : Prop where
  ids : (custody.entries.map Entry.id).Nodup
  derived : ∀ entry ∈ custody.entries, ∀ key ∈ entry.extra, key = derive entry.main
  derives : ∀ entry ∈ custody.entries, tokenOf (derive entry.main) = tokenOf entry.main
  distinct : (custody.tokens tokenOf).Nodup
  used : ∀ token ∈ custody.tokens tokenOf, token ∈ custody.used
  waiting : ∀ task ∈ custody.tasks, Entered custody.entries task
  working : ∀ stage ∈ custody.stages, ∀ task ∈ stage.task, Entered custody.entries task

def Strayed (stages : List (Stage Key Token)) (key : Key) : Prop := ∃ stage ∈ stages, stage.stray derive = some key

/-- Whatever does not match is in somebody's hands. -/
structure Kept (custody : Custody Key Token) : Prop where
  accounted : ∀ key ∈ custody.stored, custody.Named key ∨ Strayed derive custody.stages key
  backed : ∀ entry ∈ custody.entries, entry.id ∈ custody.present → ∀ key ∈ entry.keys,
    key ∈ custody.stored ∨ Emptying custody.stages entry.id
  held : ∀ key, .holding key ∈ custody.stages → key ∈ custody.stored
  framed : ∀ id key, .framing id key ∈ custody.stages →
    derive key ∈ custody.stored ∨ id ∉ custody.present ∨ Emptying custody.stages id
  emptied : ∀ id left, .emptying id left ∈ custody.stages → ∃ entry ∈ custody.entries, entry.id = id ∧
    left ⊆ entry.keys ∧ ∀ key ∈ entry.keys, key ∈ left ∨ key ∉ custody.stored ∨ Strayed derive custody.stages key

end Steps

section Replacement

variable {derive : Key → Key} {stages : List (Stage Key Token)} {position : Nat} {before after : Stage Key Token}

theorem mem_set_or_eq (found : stages[position]? = some before) (member : stage ∈ stages) :
    stage ∈ stages.set position after ∨ stage = before := by
  by_cases same : stage = before
  · exact .inr same
  · exact .inl (mem_set_of_ne found member same)

theorem mem_of_mem_set (member : stage ∈ stages.set position after) (other : stage ≠ after) : stage ∈ stages :=
  (List.mem_or_eq_of_mem_set member).resolve_right other

theorem Strayed.set (strayed : Strayed derive stages key) (found : stages[position]? = some before) :
    Strayed derive (stages.set position after) key ∨ before.stray derive = some key := by
  obtain ⟨stage, member, strays⟩ := strayed
  rcases mem_set_or_eq found member with kept | rfl
  · exact .inl ⟨stage, kept, strays⟩
  · exact .inr strays

theorem Emptying.set (emptying : Emptying stages id) (found : stages[position]? = some before) :
    Emptying (stages.set position after) id ∨ ∃ left, before = .emptying id left := by
  obtain ⟨left, member⟩ := emptying
  rcases mem_set_or_eq found member with kept | same
  · exact .inl ⟨left, kept⟩
  · exact .inr ⟨left, same.symm⟩

end Replacement

section Sound

variable {tokenOf : Key → Token} {derive : Key → Key} {custody : Custody Key Token} (sound : Sound tokenOf derive custody)

include sound

theorem Sound.token_eq (member : entry ∈ custody.entries) (named : key ∈ entry.keys) :
    tokenOf key = tokenOf entry.main := by
  rcases List.mem_cons.mp named with rfl | named
  · rfl
  · rw [sound.derived entry member key (Option.mem_toList.mp named), sound.derives entry member]

variable {first second : Entry Key} {present : Set Int}

section

variable (left : first ∈ custody.entries) (right : second ∈ custody.entries)

include left right

theorem Sound.eq_of_id (same : first.id = second.id) : first = second :=
  List.inj_on_of_nodup_map sound.ids left right same

theorem Sound.eq_of_token (same : tokenOf first.main = tokenOf second.main) : first = second :=
  List.inj_on_of_nodup_map (List.nodup_append'.mp sound.distinct).1 left right same

theorem Sound.eq_of_key (named : key ∈ first.keys) (alsoNamed : key ∈ second.keys) : first = second :=
  sound.eq_of_token left right ((sound.token_eq left named).symm.trans (sound.token_eq right alsoNamed))

end

theorem Sound.not_named (holds : .holding key ∈ custody.stages) (member : entry ∈ custody.entries) :
    key ∉ entry.keys := by
  intro named
  have entered : tokenOf entry.main ∈ custody.entries.map fun entry => tokenOf entry.main := List.mem_map_of_mem member
  have held : tokenOf key ∈ custody.stages.filterMap (Stage.token tokenOf) := List.mem_filterMap.mpr ⟨_, holds, rfl⟩
  rw [sound.token_eq member named] at held
  exact (List.nodup_append'.mp sound.distinct).2.2 entered held

theorem Sound.of_sublist {stages : List (Stage Key Token)}
    (fewer : (stages.filterMap (Stage.token tokenOf)).Sublist (custody.stages.filterMap (Stage.token tokenOf)))
    (waiting : ∀ task ∈ tasks, Entered custody.entries task)
    (working : ∀ stage ∈ stages, ∀ task ∈ stage.task, Entered custody.entries task) :
    Sound tokenOf derive { custody with stored := stored, present := present, tasks := tasks, stages := stages } where
  ids := sound.ids
  derived := sound.derived
  derives := sound.derives
  distinct := sound.distinct.sublist ((List.Sublist.refl _).append fewer)
  used token member := sound.used token (((List.Sublist.refl _).append fewer).subset member)
  waiting := waiting
  working := working

theorem Sound.set (position : Nat) {after : Stage Key Token} (nothing : after.token tokenOf = none)
    (waiting : ∀ task ∈ tasks, Entered custody.entries task) (working : ∀ task ∈ after.task, Entered custody.entries task) :
    Sound tokenOf derive
      { custody with stored := stored, present := present, tasks := tasks, stages := custody.stages.set position after } :=
  sound.of_sublist (filterMap_set_sublist _ nothing) waiting (forall_mem_set sound.working working)

variable {position : Nat}

theorem Sound.task (found : custody.stages[position]? = some stage) {task : Int × Key}
    (about : stage.task = some task) : Entered custody.entries task :=
  sound.working stage (List.mem_of_getElem? found) task about

theorem Sound.draws {token : Token} (fresh : token ∉ custody.used) : Sound tokenOf derive
    { custody with stages := custody.stages ++ [.drawn token], used := insert token custody.used } := by
  have tokens : ({ custody with stages := custody.stages ++ [.drawn token], used := insert token custody.used } :
      Custody Key Token).tokens tokenOf = custody.tokens tokenOf ++ [token] := by
    simp [Custody.tokens, Stage.token]
  refine ⟨sound.ids, sound.derived, sound.derives, ?_, ?_, sound.waiting, forall_mem_concat sound.working nofun⟩
  · rw [tokens, ← List.concat_eq_append]
    exact sound.distinct.concat fun member => fresh (sound.used token member)
  · rw [tokens]
    exact forall_mem_concat (fun other member => .inr (sound.used other member)) (.inl rfl)

theorem Sound.opens (found : custody.stages[position]? = some (.drawn (tokenOf key))) : Sound tokenOf derive
      { custody with stages := custody.stages.set position (.holding key), stored := insert key custody.stored } :=
  have same : (custody.stages.set position (.holding key)).filterMap (Stage.token tokenOf) =
      custody.stages.filterMap (Stage.token tokenOf) := filterMap_set_same _ found rfl
  sound.of_sublist (same ▸ List.Sublist.refl _) sound.waiting (forall_mem_set sound.working nofun)

theorem Sound.enters (found : custody.stages[position]? = some (.holding key))
    (fresh : ∀ entry ∈ custody.entries, entry.id ≠ id) (derives : tokenOf (derive key) = tokenOf key) :
    Sound tokenOf derive (custody.enter position id key) := by
  have tokens : ((custody.enter position id key).tokens tokenOf).Perm (custody.tokens tokenOf) := by
    have taken := filterMap_perm_set (Stage.token tokenOf) (.tasked id key) found rfl rfl
    simp only [enter, Custody.tokens, List.map_append, List.map_singleton, List.append_assoc, List.singleton_append]
    exact taken.symm.append_left _
  have later {task : Int × Key} : Entered custody.entries task → Entered (custody.entries ++ [⟨id, key, none⟩]) task :=
    fun ⟨entry, member, about⟩ => ⟨entry, List.mem_append_left _ member, about⟩
  refine ⟨?_, forall_mem_concat sound.derived nofun, forall_mem_concat sound.derives derives,
    tokens.nodup_iff.mpr sound.distinct, ?_, ?_, ?_⟩
  · rw [enter, List.map_append, List.map_singleton, ← List.concat_eq_append]
    refine sound.ids.concat fun member => ?_
    obtain ⟨entry, listed, same⟩ := List.mem_map.mp member
    exact fresh entry listed same
  · exact fun token member => sound.used token (tokens.mem_iff.mp member)
  · exact fun task member => later (sound.waiting task member)
  · refine forall_mem_set (fun stage member task about => later (sound.working stage member task about)) ?_
    rintro _ ⟨⟩
    exact ⟨_, List.mem_concat_self, rfl⟩

theorem Sound.records (id : Int) : Sound tokenOf derive (custody.complete position derive id) := by
  have fewer : ((custody.complete position derive id).tokens tokenOf).Sublist (custody.tokens tokenOf) := by
    simp only [complete, Custody.tokens, List.map_map, Function.comp_def, record_main]
    exact (List.Sublist.refl _).append (filterMap_set_sublist _ rfl)
  have later {task : Int × Key} : Entered custody.entries task → Entered (custody.entries.map (record derive id)) task := by
    rintro ⟨entry, member, rfl⟩
    exact ⟨_, List.mem_map_of_mem member, by rw [record_main, record_id]⟩
  refine ⟨?_, ?_, ?_, sound.distinct.sublist fewer, fun token member => sound.used token (fewer.subset member), ?_, ?_⟩
  · simpa only [complete, List.map_map, Function.comp_def, record_id] using sound.ids
  · intro entry member key named
    obtain ⟨old, listed, rfl⟩ := List.mem_map.mp member
    rw [record_main]
    unfold record at named
    split at named
    · exact (Option.some.inj named).symm
    · exact sound.derived old listed key named
  · intro entry member
    obtain ⟨old, listed, rfl⟩ := List.mem_map.mp member
    rw [record_main]
    exact sound.derives old listed
  · exact fun task member => later (sound.waiting task member)
  · exact forall_mem_set (fun stage member task about => later (sound.working stage member task about)) nofun

theorem Sound.step (moves : Moves tokenOf derive custody next) : Sound tokenOf derive next := by
  cases moves with
  | joins =>
    refine sound.of_sublist ?_ sound.waiting (forall_mem_concat sound.working nofun)
    rw [List.filterMap_append]
    exact List.append_nil _ ▸ List.Sublist.refl _
  | draws fresh => exact sound.draws fresh
  | submits found => exact sound.set _ rfl (forall_mem_concat sound.waiting (sound.task found rfl)) nofun
  | takes found waiting =>
    have tasks := waiting ▸ sound.waiting
    refine sound.set _ rfl (fun task member => tasks task (List.mem_cons_of_mem _ member)) ?_
    rintro _ ⟨⟩
    exact tasks _ List.mem_cons_self
  | opens found => exact sound.opens found
  | enters found fresh derives => exact sound.enters found fresh derives
  | frames found =>
    refine sound.set _ rfl sound.waiting ?_
    rintro _ ⟨⟩
    exact sound.task found rfl
  | records found present kept => exact sound.records _
  | quits | reads | unlinks | deletes => exact sound.set _ rfl sound.waiting nofun

end Sound

section Kept

variable {tokenOf : Key → Token} {derive : Key → Key} {custody : Custody Key Token}

theorem Stage.stray_of_rests (rests : stage.rests) : stage.stray derive = none := by
  cases stage with
  | idle | drawn | tasked => rfl
  | holding | framing | emptying => cases rests

theorem union_stray_of_none (nothing : stage.stray derive = none) (stored : Set Key) :
    stored = stored ∪ {key | stage.stray derive = some key} := by
  simp [nothing]

theorem insert_eq_union_stray (strays : stage.stray derive = some key) (stored : Set Key) :
    insert key stored = stored ∪ {key | stage.stray derive = some key} := by
  ext other
  simp [strays, eq_comm]

/-- A call that has nothing in hand comes to a stage in which it has in hand what it has just stored. -/
theorem Kept.of_arrival (kept : Kept derive custody) {used : Set Token} {stages : List (Stage Key Token)}
    (arrival : Stage Key Token) (busy : ∀ stage ∈ custody.stages, stage ∈ stages ∨ stage.rests)
    (arrived : arrival ∈ stages) (known : ∀ stage ∈ stages, stage ∈ custody.stages ∨ stage = arrival)
    (stores : stored = custody.stored ∪ {key | arrival.stray derive = some key})
    (empties : ∀ id left, arrival = .emptying id left → ∃ entry ∈ custody.entries, entry.id = id ∧ entry.keys = left) :
    Kept derive { custody with stored := stored, tasks := tasks, stages := stages, used := used } := by
  subst stores
  have strayed {key : Key} : Strayed derive custody.stages key → Strayed derive stages key := by
    rintro ⟨stage, member, strays⟩
    rcases busy stage member with listed | rests
    · exact ⟨stage, listed, strays⟩
    · cases strays.symm.trans (Stage.stray_of_rests rests)
  have emptying {id : Int} : Emptying custody.stages id → Emptying stages id := by
    rintro ⟨left, member⟩
    exact (busy _ member).elim (fun listed => ⟨left, listed⟩) False.elim
  constructor
  case accounted =>
    rintro key (earlier | strays)
    · exact (kept.accounted key earlier).imp_right strayed
    · exact .inr ⟨arrival, arrived, strays⟩
  case backed =>
    intro entry member present key named
    exact (kept.backed entry member present key named).imp .inl emptying
  case held =>
    intro key member
    rcases known _ member with earlier | rfl
    · exact .inl (kept.held key earlier)
    · exact .inr rfl
  case framed =>
    intro id key member
    rcases known _ member with earlier | rfl
    · exact (kept.framed id key earlier).imp .inl (Or.imp_right emptying)
    · exact .inl (.inr rfl)
  case emptied =>
    intro id left member
    rcases known _ member with earlier | rfl
    · obtain ⟨entry, listed, same, within, gone⟩ := kept.emptied id left earlier
      refine ⟨entry, listed, same, within, fun key named => ?_⟩
      rcases gone key named with remains | absent | strays
      · exact .inl remains
      · by_cases new : arrival.stray derive = some key
        · exact .inr (.inr ⟨arrival, arrived, new⟩)
        · exact .inr (.inl fun present => present.elim absent new)
      · exact .inr (.inr (strayed strays))
    · obtain ⟨entry, listed, same, rfl⟩ := empties id left rfl
      exact ⟨entry, listed, same, List.Subset.refl _, fun key named => .inl named⟩

theorem Kept.joins (kept : Kept derive custody) (stage : Stage Key Token) (rests : stage.rests) {used : Set Token} :
    Kept derive { custody with stages := custody.stages ++ [stage], used := used } := by
  refine kept.of_arrival stage (fun _ member => .inl (List.mem_append_left _ member)) List.mem_concat_self
    (forall_mem_concat (fun _ member => .inl member) (.inr rfl)) (union_stray_of_none (Stage.stray_of_rests rests) _) ?_
  rintro id left rfl
  cases rests

variable {position : Nat}

section

variable (kept : Kept derive custody)

include kept

theorem Kept.set {before after : Stage Key Token}
    (found : custody.stages[position]? = some before) (rests : before.rests)
    (stores : stored = custody.stored ∪ {key | after.stray derive = some key})
    (empties : ∀ id left, after = .emptying id left → ∃ entry ∈ custody.entries, entry.id = id ∧ entry.keys = left) :
    Kept derive { custody with stored := stored, tasks := tasks, stages := custody.stages.set position after } := by
  refine kept.of_arrival after ?_ (mem_set_self after found)
    (forall_mem_set (fun _ member => .inl member) (.inr rfl)) stores empties
  intro stage member
  rcases mem_set_or_eq found member with listed | rfl
  · exact .inl listed
  · exact .inr rests

section

variable (sound : Sound tokenOf derive custody)

include sound

theorem Kept.enters
    (found : custody.stages[position]? = some (.holding key)) (fresh : ∀ entry ∈ custody.entries, entry.id ≠ id) :
    Kept derive (custody.enter position id key) := by
  have holds : .holding key ∈ custody.stages := List.mem_of_getElem? found
  have emptying {other : Int} (earlier : Emptying custody.stages other) :
      Emptying (custody.stages.set position (.tasked id key)) other :=
    (earlier.set found).elim (·) nofun
  constructor
  case accounted =>
    intro other stored
    rcases kept.accounted other stored with ⟨entry, member, present, named⟩ | strayed
    · exact .inl ⟨entry, List.mem_append_left _ member, .inr present, named⟩
    · rcases strayed.set found with strays | same
      · exact .inr strays
      · cases same
        exact .inl ⟨_, List.mem_concat_self, .inl rfl, List.mem_cons_self⟩
  case backed =>
    refine forall_mem_concat (fun entry member present other named => ?_) fun _ other named => ?_
    · have earlier := present.resolve_left (fresh entry member)
      exact (kept.backed entry member earlier other named).imp_right emptying
    · cases List.mem_singleton.mp named
      exact .inl (kept.held key holds)
  case held => exact fun other member => kept.held other (mem_of_mem_set member nofun)
  case framed =>
    intro other base member
    have earlier := mem_of_mem_set member nofun
    obtain ⟨entry, listed, about⟩ := sound.working _ earlier _ rfl
    cases about
    rcases kept.framed _ _ earlier with stored | absent | empties
    · exact .inl stored
    · exact .inr (.inl fun present => present.elim (fresh entry listed) absent)
    · exact .inr (.inr (emptying empties))
  case emptied =>
    intro other left member
    obtain ⟨entry, listed, same, within, gone⟩ := kept.emptied other left (mem_of_mem_set member nofun)
    refine ⟨entry, List.mem_append_left _ listed, same, within, fun named inKeys => ?_⟩
    refine (gone named inKeys).imp_right (Or.imp_right fun strayed => (strayed.set found).resolve_right ?_)
    -- The object that has been entered is not one of a row that was there before.
    rintro ⟨⟩
    exact sound.not_named holds listed inKeys

theorem Kept.records (found : custody.stages[position]? = some (.framing id key)) (present : id ∈ custody.present)
    (untouched : ¬ Emptying custody.stages id) : Kept derive (custody.complete position derive id) := by
  have holds : .framing id key ∈ custody.stages := List.mem_of_getElem? found
  obtain ⟨own, ownListed, about⟩ := sound.working _ holds _ rfl
  cases about
  have emptying {other : Int} (earlier : Emptying custody.stages other) : Emptying (custody.stages.set position .idle) other :=
    (earlier.set found).elim (·) nofun
  constructor
  case accounted =>
    intro other stored
    have named {entry : Entry Key} (listed : entry ∈ custody.entries) (isPresent : entry.id ∈ custody.present)
        (inKeys : other ∈ (record derive own.id entry).keys) : ∃ entry ∈ custody.entries.map (record derive own.id),
          entry.id ∈ custody.present ∧ other ∈ entry.keys :=
      ⟨_, List.mem_map_of_mem listed, record_id derive own.id entry ▸ isPresent, inKeys⟩
    rcases kept.accounted other stored with ⟨entry, listed, isPresent, inKeys⟩ | strayed
    · exact .inl (named listed isPresent ((mem_keys_record (sound.derived entry listed)).mpr (.inl inKeys)))
    · rcases strayed.set found with strays | same
      · exact .inr strays
      · cases same
        exact .inl (named ownListed present ((mem_keys_record (sound.derived own ownListed)).mpr (.inr ⟨rfl, rfl⟩)))
  case backed =>
    intro entry member isPresent other inKeys
    obtain ⟨old, listed, rfl⟩ := List.mem_map.mp member
    rw [record_id] at isPresent ⊢
    rcases (mem_keys_record (sound.derived old listed)).mp inKeys with inKeys | ⟨same, rfl⟩
    · exact (kept.backed old listed isPresent other inKeys).imp_right emptying
    · cases sound.eq_of_id listed ownListed same
      exact .inl ((kept.framed _ _ holds).resolve_right (not_or.mpr ⟨not_not_intro present, untouched⟩))
  case held => exact fun other member => kept.held other (mem_of_mem_set member nofun)
  case framed =>
    intro other base member
    exact (kept.framed other base (mem_of_mem_set member nofun)).imp_right (Or.imp_right emptying)
  case emptied =>
    intro other left member
    have earlier := mem_of_mem_set member nofun
    obtain ⟨entry, listed, rfl, within, gone⟩ := kept.emptied other left earlier
    have different : entry.id ≠ own.id := fun same => untouched (same ▸ ⟨left, earlier⟩)
    have unchanged : record derive own.id entry = entry := record_of_ne different
    refine ⟨entry, List.mem_map.mpr ⟨entry, listed, unchanged⟩, rfl, within, fun named inKeys => ?_⟩
    refine (gone named inKeys).imp_right (Or.imp_right fun strayed => (strayed.set found).resolve_right ?_)
    -- The object that has been entered has its token from another row.
    rintro ⟨⟩
    have token := (sound.token_eq listed inKeys).symm.trans (sound.derives own ownListed)
    exact different (congrArg Entry.id (sound.eq_of_token listed ownListed token))

theorem Kept.unlinks {left : List Key} (found : custody.stages[position]? = some (.emptying id (key :: left))) :
    Kept derive
      { custody with
        stages := custody.stages.set position (.emptying id left)
        stored := custody.stored \ {key} } := by
  obtain ⟨own, ownListed, rfl, within, gone⟩ := kept.emptied _ _ (List.mem_of_getElem? found)
  have owns : key ∈ own.keys := within List.mem_cons_self
  have empties : Emptying (custody.stages.set position (.emptying own.id left)) own.id := ⟨left, mem_set_self _ found⟩
  have emptying {other : Int} (earlier : Emptying custody.stages other) :
      Emptying (custody.stages.set position (.emptying own.id left)) other := by
    rcases earlier.set found with still | ⟨_, same⟩
    · exact still
    · cases same
      exact empties
  have strayed {other : Key} (earlier : Strayed derive custody.stages other) :
      Strayed derive (custody.stages.set position (.emptying own.id left)) other :=
    (earlier.set found).elim (·) nofun
  constructor
  case accounted => exact fun other ⟨stored, _⟩ => (kept.accounted other stored).imp_right strayed
  case backed =>
    intro entry listed present other inKeys
    by_cases same : other = key
    · subst same
      exact .inr (sound.eq_of_key ownListed listed owns inKeys ▸ empties)
    · exact (kept.backed entry listed present other inKeys).imp (⟨·, same⟩) emptying
  case held =>
    intro other member
    have earlier := mem_of_mem_set member nofun
    refine ⟨kept.held other earlier, ?_⟩
    rintro rfl
    exact sound.not_named earlier ownListed owns
  case framed =>
    intro other base member
    have earlier := mem_of_mem_set member nofun
    obtain ⟨entry, listed, about⟩ := sound.working _ earlier _ rfl
    cases about
    by_cases same : derive entry.main = key
    · subst same
      have token := (sound.derives entry listed).symm.trans (sound.token_eq ownListed owns)
      exact .inr (.inr (sound.eq_of_token ownListed listed token.symm ▸ empties))
    · exact (kept.framed _ _ earlier).imp (⟨·, same⟩) (Or.imp_right emptying)
  case emptied =>
    intro other rest member
    rcases List.mem_or_eq_of_mem_set member with earlier | same
    · obtain ⟨entry, listed, same, inside, gone⟩ := kept.emptied other rest earlier
      refine ⟨entry, listed, same, inside, fun named inKeys => ?_⟩
      exact (gone named inKeys).imp_right (Or.imp (fun absent stored => absent stored.1) strayed)
    · cases same
      refine ⟨own, ownListed, rfl, fun _ member => within (List.mem_cons_of_mem _ member), fun named inKeys => ?_⟩
      rcases gone named inKeys with remains | absent | strays
      · rcases List.mem_cons.mp remains with rfl | remains
        · exact .inr (.inl fun stored => stored.2 rfl)
        · exact .inl remains
      · exact .inr (.inl fun stored => absent stored.1)
      · exact .inr (.inr (strayed strays))

theorem Kept.deletes (found : custody.stages[position]? = some (.emptying id [])) :
    Kept derive { custody with stages := custody.stages.set position .idle, present := custody.present \ {id} } := by
  obtain ⟨own, ownListed, rfl, _, gone⟩ := kept.emptied _ _ (List.mem_of_getElem? found)
  have emptying {other : Int} (earlier : Emptying custody.stages other) (different : other ≠ own.id) :
      Emptying (custody.stages.set position .idle) other := by
    rcases earlier.set found with still | ⟨_, same⟩
    · exact still
    · cases same
      exact absurd rfl different
  have strayed {key : Key} (earlier : Strayed derive custody.stages key) :
      Strayed derive (custody.stages.set position .idle) key :=
    (earlier.set found).elim (·) nofun
  constructor
  case accounted =>
    intro key stored
    rcases kept.accounted key stored with ⟨entry, listed, present, inKeys⟩ | strays
    · by_cases same : entry.id = own.id
      · cases sound.eq_of_id listed ownListed same
        rcases gone key inKeys with none | absent | strays
        · cases none
        · exact absurd stored absent
        · exact .inr (strayed strays)
      · exact .inl ⟨entry, listed, ⟨present, same⟩, inKeys⟩
    · exact .inr (strayed strays)
  case backed =>
    intro entry listed present key inKeys
    exact (kept.backed entry listed present.1 key inKeys).imp_right (emptying · present.2)
  case held => exact fun key member => kept.held key (mem_of_mem_set member nofun)
  case framed =>
    intro id key member
    by_cases same : id = own.id
    · exact .inr (.inl fun present => present.2 same)
    · exact (kept.framed id key (mem_of_mem_set member nofun)).imp_right
        (Or.imp (fun absent present => absent present.1) (emptying · same))
  case emptied =>
    intro id left member
    obtain ⟨entry, listed, same, within, gone⟩ := kept.emptied id left (mem_of_mem_set member nofun)
    exact ⟨entry, listed, same, within, fun key inKeys => (gone key inKeys).imp_right (Or.imp_right strayed)⟩

theorem Kept.step (moves : Moves tokenOf derive custody next) : Kept derive next := by
  cases moves with
  | joins => exact kept.joins .idle trivial
  | draws fresh => exact kept.joins (.drawn _) trivial
  | quits found rests => exact kept.set found rests (union_stray_of_none rfl _) nofun
  | reads found member =>
    refine kept.set found trivial (union_stray_of_none rfl _) ?_
    rintro _ _ ⟨⟩
    exact ⟨_, member, rfl, rfl⟩
  | submits found | takes found => exact kept.set found trivial (union_stray_of_none rfl _) nofun
  | enters found fresh _ => exact kept.enters sound found fresh
  | opens found | frames found => exact kept.set found trivial (insert_eq_union_stray rfl _) nofun
  | records found present untouched => exact kept.records sound found present untouched
  | unlinks found => exact kept.unlinks sound found
  | deletes found => exact kept.deletes sound found

end

theorem Kept.exact (ended : ∀ stage ∈ custody.stages, stage.rests) : custody.Exact := by
  refine Set.ext fun key => ⟨fun stored => ?_, fun ⟨entry, listed, present, inKeys⟩ => ?_⟩
  · refine (kept.accounted key stored).resolve_right ?_
    rintro ⟨stage, member, strays⟩
    cases (Stage.stray_of_rests (ended stage member)).symm.trans strays
  · refine (kept.backed entry listed present key inKeys).resolve_right ?_
    rintro ⟨left, member⟩
    exact ended _ member

end

end Kept

end Custody

end RealtimeChat.Foundation

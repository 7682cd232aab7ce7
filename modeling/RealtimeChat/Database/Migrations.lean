import RealtimeChat.Foundation.Positions
import RealtimeChat.Foundation.Run
import RealtimeChat.Foundation.Table
import RealtimeChat.Basic
import Mathlib.Data.List.DropRight
import Mathlib.Data.List.Sort

/-! Schema migrations by several runners.

A runner lists the directory, sorts the files by name and goes through them. It
asks in one transaction whether a version is recorded, and executes and records
it in another, so that two runners can be at the same file at the same time. The
version is a primary key, and the transaction that comes second is rolled back.

Any transaction may fail, and a runner may be gone at any point.
-/

set_option autoImplicit false

namespace RealtimeChat.Database

open Foundation

section Names

def untilDot (name : String) : List Char := name.toList.rdropWhile (· ≠ '.')

/-- A name that only starts with a dot has no extension. -/
def extension (name : String) : String :=
  if (untilDot name).length ≤ 1 then "" else String.ofList ('.' :: name.toList.rtakeWhile (· ≠ '.'))

def stem (name : String) : String :=
  if (untilDot name).length ≤ 1 then name else String.ofList (untilDot name).dropLast

theorem toList_eq_stem {name : String} (dotted : ¬ (untilDot name).length ≤ 1) :
    name.toList = (untilDot name).dropLast ++ '.' :: name.toList.rtakeWhile (· ≠ '.') := by
  have nonempty : untilDot name ≠ [] := fun none => dotted (by simp [none])
  have last : (untilDot name).getLast nonempty = '.' :=
    not_not.mp fun other => List.rdropWhile_last_not _ _ nonempty (decide_eq_true other)
  calc name.toList = untilDot name ++ name.toList.rtakeWhile (· ≠ '.') :=
        List.rdropWhile_append_rtakeWhile.symm
    _ = ((untilDot name).dropLast ++ ['.']) ++ name.toList.rtakeWhile (· ≠ '.') := by
        rw [← last, List.dropLast_append_getLast nonempty]
    _ = _ := List.append_cons .. |>.symm

theorem name_eq {name : String} (dotted : extension name ≠ "") : name = stem name ++ extension name := by
  unfold extension at dotted
  split at dotted
  · exact absurd rfl dotted
  · next long =>
    rw [← String.toList_inj, stem, extension, if_neg long, if_neg long, String.toList_append, String.toList_ofList,
      String.toList_ofList]
    exact toList_eq_stem long

theorem eq_of_stem {first second : String} (dotted : extension first ≠ "") (sameExtension : extension first = extension second)
    (sameStem : stem first = stem second) : first = second :=
  calc first = stem first ++ extension first := name_eq dotted
    _ = stem second ++ extension second := by rw [sameStem, sameExtension]
    _ = second := (name_eq (sameExtension ▸ dotted)).symm

end Names

structure Entry where
  name : String
  regular : Bool
  content : String

structure Directory where
  entries : List Entry
  distinct : (entries.map Entry.name).Nodup

structure Migration where
  version : String
  sql : String
  deriving DecidableEq, Repr

namespace Directory

def files (directory : Directory) : List Entry :=
  (directory.entries.filter fun entry => entry.regular && extension entry.name = ".sql").insertionSort
    fun first second => first.name ≤ second.name

def migrations (directory : Directory) : List Migration :=
  directory.files.map fun file => ⟨stem file.name, file.content⟩

theorem versions_nodup (directory : Directory) : (directory.migrations.map Migration.version).Nodup := by
  have names : (directory.files.map Entry.name).Nodup := by
    have listed := (List.perm_insertionSort (fun first second : Entry => first.name ≤ second.name)
      (directory.entries.filter fun entry => entry.regular && extension entry.name = ".sql")).map Entry.name
    exact listed.nodup_iff.mpr (List.filter_sublist.map _ |>.nodup directory.distinct)
  have scripts (name : String) (member : name ∈ directory.files.map Entry.name) : extension name = ".sql" := by
    obtain ⟨file, listed, rfl⟩ := List.mem_map.mp member
    have selected := List.of_mem_filter ((List.mem_insertionSort _).mp listed)
    exact of_decide_eq_true (Bool.and_eq_true_iff.mp selected).2
  rw [migrations, List.map_map, show (Migration.version ∘ fun file : Entry => (⟨stem file.name, file.content⟩ : Migration)) =
    stem ∘ Entry.name from rfl, ← List.map_map]
  refine List.Nodup.map_on (fun first one second two same => ?_) names
  exact eq_of_stem (by rw [scripts first one]; decide) ((scripts first one).trans (scripts second two).symm) same

end Directory

/-- What a step throws: an exception of the application or any other, by its text. -/
inductive Fault where
  | app (error : AppException)
  | standard (what : String)
  deriving DecidableEq, Repr

/-- Where `run` stands. In `executed` the transaction has executed the script and is still open. -/
inductive Runner where
  | ensuring
  | checking (rest : List Migration) (appliedCount : Nat)
  | applying (migration : Migration) (rest : List Migration) (appliedCount : Nat)
  | executed (migration : Migration) (rest : List Migration) (appliedCount : Nat)
  | returned (appliedCount : Nat)
  | threw (fault : Fault)
  deriving DecidableEq, Repr

/-- What is committed: whether `schema_migrations` exists, its rows, and the scripts, in the order of
their commits. -/
structure Schema where
  bookkeeping : Bool
  versions : Table fun version : String => version
  scripts : List Migration

def duplicateVersion (version : String) : Fault :=
  .standard ("ERROR:  duplicate key value violates unique constraint \"schema_migrations_pkey\"\nDETAIL:  Key (version)=(" ++
    version ++ ") already exists.\n")

namespace Runner

/-- What the caller of `run` gets to see of a fault. -/
def throws : Runner → Fault → Runner
  | .applying migration _ _, .standard what | .executed migration _ _, .standard what =>
    .threw (.app ⟨.database, "Migration failed: " ++ migration.version, what⟩)
  | _, fault => .threw fault

def advance (directory : Directory) (schema : Schema) : Runner → Option (Schema × Runner)
  | .ensuring => some ({ schema with bookkeeping := true }, .checking directory.migrations 0)
  | .checking [] appliedCount => some (schema, .returned appliedCount)
  | .checking (migration :: rest) appliedCount =>
    if !schema.bookkeeping then
      some (schema, .threw (.standard "ERROR:  relation \"schema_migrations\" does not exist\n"))
    else if migration.version ∈ schema.versions.rows then some (schema, .checking rest appliedCount)
    else some (schema, .applying migration rest appliedCount)
  | .applying migration rest appliedCount => some (schema, .executed migration rest appliedCount)
  | .executed migration rest appliedCount =>
    match schema.versions.insert migration.version with
    | some versions =>
      some ({ schema with versions := versions, scripts := schema.scripts ++ [migration] },
        .checking rest (appliedCount + 1))
    | none =>
      some (schema, (Runner.executed migration rest appliedCount).throws (duplicateVersion migration.version))
  | .returned _ | .threw _ => none

end Runner

structure Migrating where
  schema : Schema
  runners : List Runner

namespace Migrating

def initial : Migrating := ⟨⟨false, .empty _, []⟩, []⟩

inductive Label where
  | start
  | advance (position : Nat)
  | fail (position : Nat) (fault : Fault)

def step (directory : Directory) : Step Migrating Label := fun state label =>
  match label with
  | .start => some { state with runners := state.runners ++ [.ensuring] }
  | .advance position => do
    let runner ← state.runners[position]?
    let (schema, next) ← runner.advance directory state.schema
    some ⟨schema, state.runners.set position next⟩
  | .fail position fault => do
    let runner ← state.runners[position]?
    some { state with runners := state.runners.set position (runner.throws fault) }

end Migrating

def Runner.Follows (migrations : List Migration) (committed : Nat) : Runner → Prop
  | .checking rest _ => ∃ passed, migrations = passed ++ rest ∧ passed.length ≤ committed
  | .applying migration rest _ | .executed migration rest _ =>
    ∃ passed, migrations = passed ++ migration :: rest ∧ passed.length ≤ committed
  | .ensuring | .returned _ | .threw _ => True

theorem Runner.Follows.mono {migrations : List Migration} {committed more : Nat} {runner : Runner}
    (follows : runner.Follows migrations committed) (grown : committed ≤ more) : runner.Follows migrations more := by
  cases runner with
  | checking | applying | executed =>
    obtain ⟨passed, split, behind⟩ := follows
    exact ⟨passed, split, le_trans behind grown⟩
  | ensuring | returned | threw => trivial

structure Migrating.InOrder (directory : Directory) (state : Migrating) : Prop where
  scripts : state.schema.scripts <+: directory.migrations
  versions : state.schema.versions.rows = state.schema.scripts.map Migration.version
  runners : ∀ runner ∈ state.runners, runner.Follows directory.migrations state.schema.scripts.length

theorem Migrating.initial_inOrder (directory : Directory) : Migrating.initial.InOrder directory where
  scripts := List.nil_prefix
  versions := rfl
  runners _ member := absurd member List.not_mem_nil

namespace Migrating.InOrder

variable {directory : Directory} {state : Migrating}

theorem migrations_nodup (directory : Directory) : directory.migrations.Nodup :=
  directory.versions_nodup.of_map

variable {migration : Migration} {rest : List Migration}

section

variable (inOrder : state.InOrder directory)

include inOrder

theorem version_mem (listed : migration ∈ directory.migrations) :
    migration.version ∈ state.schema.versions.rows ↔ migration ∈ state.schema.scripts := by
  rw [inOrder.versions, List.mem_map]
  refine ⟨fun ⟨other, member, same⟩ => ?_, fun member => ⟨migration, member, rfl⟩⟩
  rwa [← List.inj_on_of_nodup_map directory.versions_nodup (inOrder.scripts.subset member) listed same]

theorem commit {versions : Table fun version : String => version}
    (follows : ∃ passed, directory.migrations = passed ++ migration :: rest ∧ passed.length ≤ state.schema.scripts.length)
    (inserted : state.schema.versions.insert migration.version = some versions) :
    directory.migrations = state.schema.scripts ++ migration :: rest := by
  obtain ⟨passed, split, behind⟩ := follows
  have listed : migration ∈ directory.migrations := split ▸ List.mem_append_right _ List.mem_cons_self
  have absent : migration ∉ state.schema.scripts := by
    rw [← inOrder.version_mem listed]
    exact fun member => (Table.insert_eq_some inserted).1 _ member rfl
  rcases before_or_beyond (migrations_nodup directory) split inOrder.scripts with ⟨⟨between, before⟩, _⟩ | ⟨later, beyond⟩
  · obtain rfl : between = [] := by
      rw [before, List.length_append] at behind
      exact List.length_eq_zero_iff.mp (by omega)
    rw [split, before, List.append_nil]
  · exact absurd (beyond ▸ List.mem_append_right _ List.mem_cons_self) absent

theorem skip {passed : List Migration} (split : directory.migrations = passed ++ migration :: rest)
    (recorded : migration.version ∈ state.schema.versions.rows) :
    (passed ++ [migration]).length ≤ state.schema.scripts.length := by
  have listed : migration ∈ directory.migrations := split ▸ List.mem_append_right _ List.mem_cons_self
  have committed := (inOrder.version_mem listed).mp recorded
  rcases before_or_beyond (migrations_nodup directory) split inOrder.scripts with ⟨_, absent⟩ | ⟨later, beyond⟩
  · exact absurd committed absent
  · rw [beyond]
    simp

theorem advance {runner next : Runner} {schema : Schema}
    (follows : runner.Follows directory.migrations state.schema.scripts.length)
    (advances : runner.advance directory state.schema = some (schema, next)) :
    state.schema.scripts <+: schema.scripts ∧ schema.scripts <+: directory.migrations ∧
      schema.versions.rows = schema.scripts.map Migration.version ∧
      next.Follows directory.migrations schema.scripts.length := by
  -- Every step but a commit leaves the scripts as they are.
  have unchanged {after : Runner} (stays : after.Follows directory.migrations state.schema.scripts.length) :
      state.schema.scripts <+: state.schema.scripts ∧ state.schema.scripts <+: directory.migrations ∧
        state.schema.versions.rows = state.schema.scripts.map Migration.version ∧
        after.Follows directory.migrations state.schema.scripts.length :=
    ⟨List.prefix_refl _, inOrder.scripts, inOrder.versions, stays⟩
  cases runner with
  | ensuring =>
    cases advances
    exact unchanged ⟨[], rfl, Nat.zero_le _⟩
  | checking rest appliedCount =>
    cases rest with
    | nil =>
      cases advances
      exact unchanged trivial
    | cons migration rest =>
      obtain ⟨passed, split, behind⟩ := follows
      simp only [Runner.advance] at advances
      split at advances
      · cases advances
        exact unchanged trivial
      · split at advances <;> cases advances
        · next recorded => exact unchanged ⟨passed ++ [migration], by rw [split]; simp, inOrder.skip split recorded⟩
        · exact unchanged ⟨passed, split, behind⟩
  | applying migration rest appliedCount =>
    cases advances
    exact unchanged follows
  | executed migration rest appliedCount =>
    simp only [Runner.advance] at advances
    split at advances
    · next versions inserted =>
      cases advances
      have split := inOrder.commit follows inserted
      have whole : directory.migrations = (state.schema.scripts ++ [migration]) ++ rest := by rw [split]; simp
      refine ⟨List.prefix_append _ _, ⟨rest, whole.symm⟩, ?_, state.schema.scripts ++ [migration], whole, le_refl _⟩
      rw [(Table.insert_eq_some inserted).2, inOrder.versions, List.map_append, List.map_singleton]
    · cases advances
      exact unchanged trivial
  | returned | threw => cases advances

theorem step {label : Label} {next : Migrating}
    (moves : Migrating.step directory state label = some next) : next.InOrder directory := by
  cases label with
  | start =>
    cases moves
    exact ⟨inOrder.scripts, inOrder.versions, forall_mem_concat inOrder.runners trivial⟩
  | advance position =>
    obtain ⟨runner, found, moves⟩ := Option.bind_eq_some_iff.mp moves
    obtain ⟨⟨schema, after⟩, advances, moves⟩ := Option.bind_eq_some_iff.mp moves
    cases moves
    obtain ⟨grown, scripts, versions, follows⟩ :=
      inOrder.advance (inOrder.runners runner (List.mem_of_getElem? found)) advances
    refine ⟨scripts, versions, forall_mem_set (fun other member => ?_) follows⟩
    exact (inOrder.runners other member).mono grown.length_le
  | fail position fault =>
    obtain ⟨runner, found, moves⟩ := Option.bind_eq_some_iff.mp moves
    cases moves
    refine ⟨inOrder.scripts, inOrder.versions, forall_mem_set inOrder.runners ?_⟩
    cases runner <;> cases fault <;> trivial

end

end Migrating.InOrder

/-- However many runners there are and whatever fails, the versions that are recorded are the first
ones of the directory in the order of the file names, and the script of each of them, and of no
other, has been committed exactly once. -/
theorem migrations_in_order {directory : Directory} {labels : List Migrating.Label} {final : Migrating}
    (runs : (Migrating.step directory).run .initial labels = some final) :
    final.schema.versions.rows <+: directory.migrations.map Migration.version ∧
    (∀ migration ∈ directory.migrations, final.schema.scripts.count migration =
      if migration.version ∈ final.schema.versions.rows then 1 else 0) ∧
    ∀ migration ∈ final.schema.scripts, migration ∈ directory.migrations := by
  have inOrder := Step.run_invariant (fun state => state.InOrder directory) (fun inOrder moves => inOrder.step moves)
    (Migrating.initial_inOrder directory) runs
  have once : final.schema.scripts.Nodup :=
    (Migrating.InOrder.migrations_nodup directory).sublist inOrder.scripts.sublist
  refine ⟨inOrder.versions ▸ inOrder.scripts.map _, fun migration listed => ?_, fun migration member => inOrder.scripts.subset member⟩
  rw [once.count]
  simp only [inOrder.version_mem listed]

def twoScripts : Directory where
  entries := [⟨"0002_add_user_profile.sql", true, "ALTER TABLE users ADD COLUMN bio TEXT;"⟩, ⟨"README.md", true, ""⟩,
    ⟨"0001_create_users.sql", true, "CREATE TABLE users (id BIGSERIAL PRIMARY KEY);"⟩]
  distinct := by decide

/-- Two runners are at the first script at the same time. The one that comes second throws, the other
one loses its connection, and a third one finishes. -/
def contended : List Migrating.Label :=
  [.start, .start, .advance 0, .advance 1, .advance 0, .advance 1, .advance 0, .advance 1, .advance 1, .advance 0,
    .fail 1 (.standard "connection reset"), .start, .advance 2, .advance 2, .advance 2, .advance 2, .advance 2, .advance 2]

theorem migrations_in_order_contended : ∃ final, (Migrating.step twoScripts).run .initial contended = some final ∧
      final.runners[2]? = some (.returned 1) ∧
      final.schema.versions.rows <+: twoScripts.migrations.map Migration.version ∧
      ∀ migration ∈ twoScripts.migrations, final.schema.scripts.count migration =
        if migration.version ∈ final.schema.versions.rows then 1 else 0 := by
  obtain ⟨final, runs, returned⟩ := (Option.any_eq_true _ _).mp (by decide +kernel :
    ((Migrating.step twoScripts).run .initial contended).any fun final => final.runners[2]? = some (.returned 1))
  have ordered := migrations_in_order runs
  exact ⟨final, runs, of_decide_eq_true returned, ordered.1, ordered.2.1⟩

end RealtimeChat.Database

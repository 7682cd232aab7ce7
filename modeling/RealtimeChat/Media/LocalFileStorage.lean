import RealtimeChat.Foundation.Decimal
import RealtimeChat.Foundation.Path
import RealtimeChat.Media.AttachmentService

/-! The files of the storage keys.

A key names a file below the root directory. Keys that are absolute or go up are
refused, so that none leads out of the root; the keys of uploads are never refused,
whatever name the client gives its file.
-/

set_option autoImplicit false

namespace RealtimeChat.Media

open Foundation

namespace LocalFileStorage

def resolve (root key : String) : Result String :=
  if key = "" then .error ⟨.validation, "Empty storage key", ""⟩
  else if Path.isAbsolute key.toList then .error ⟨.validation, "Storage key must be relative", ""⟩
  else if Path.parent ∈ Path.elements key.toList then
    .error ⟨.validation, "Storage key must not contain '..'", ""⟩
  else .ok (String.ofList (Path.join root.toList key.toList))

def Refused (key : String) : Prop :=
  key = "" ∨ Path.isAbsolute key.toList = true ∨ Path.parent ∈ Path.names key.toList

theorem resolve_of_refused {key : String} (refused : Refused key) (root : String) :
    ∃ error, resolve root key = .error error := by
  unfold resolve
  split
  · exact ⟨_, rfl⟩
  · split
    · exact ⟨_, rfl⟩
    · next filled relative =>
      have upward := (refused.resolve_left filled).resolve_left relative
      rw [if_pos (Path.parent_mem_elements.mpr upward)]
      exact ⟨_, rfl⟩

theorem resolve_of_not_refused {key : String} (accepted : ¬ Refused key) (root : String) :
    resolve root key = .ok (String.ofList (Path.join root.toList key.toList)) := by
  simp only [Refused, not_or] at accepted
  obtain ⟨filled, relative, onward⟩ := accepted
  rw [resolve, if_neg filled, if_neg relative, if_neg (mt Path.parent_mem_elements.mp onward)]

theorem under_of_resolve {root key path : String} (resolved : resolve root key = .ok path) :
    Path.Under root.toList path.toList := by
  by_cases refused : Refused key
  · obtain ⟨error, thrown⟩ := resolve_of_refused refused root
    rw [thrown] at resolved
    cases resolved
  · rw [resolve_of_not_refused refused] at resolved
    cases resolved
    simp only [Refused, not_or, Bool.not_eq_true] at refused
    rw [String.toList_ofList]
    exact Path.under_join refused.2.1 refused.2.2

end LocalFileStorage

section Keys

theorem not_mem_afterLast (mark : Char) (text : List Char) : mark ∉ afterLast mark text := by
  intro member
  simpa using List.mem_takeWhile_imp (List.mem_reverse.mp member)

theorem mem_of_mem_afterLast {mark c : Char} {text : List Char} (member : c ∈ afterLast mark text) : c ∈ text :=
  List.mem_reverse.mp ((List.takeWhile_sublist _).subset (List.mem_reverse.mp member))

theorem slash_not_mem_extensionOf (filename : String) : '/' ∉ (extensionOf filename).toList := by
  dsimp only [extensionOf]
  split
  · rw [String.toList_ofList]
    intro member
    rcases List.mem_cons.mp member with same | tail
    · cases same
    · exact not_mem_afterLast '/' _ (mem_of_mem_afterLast tail)
  · exact List.not_mem_nil

/-- The digits that `generate_hex_token` draws from. -/
def HexToken.IsHex (token : HexToken) : Prop := ∀ c ∈ token.digits, c ∈ "0123456789abcdef".toList

def fileName (token : HexToken) (filename : String) : Path.Name := token.digits ++ (extensionOf filename).toList

def ownerDirectory (root : String) (ownerId : UserId) : List Char := Path.join root.toList (toString ownerId).toList

theorem toList_storageKey (ownerId : UserId) (token : HexToken) (filename : String) :
    (storageKey ownerId token filename).toList = (toString ownerId).toList ++ '/' :: fileName token filename := by
  have slash : "/".toList = ['/'] := rfl
  simp [storageKey, fileName, slash]

theorem slash_not_mem_fileName {token : HexToken} (hex : token.IsHex) (filename : String) :
    '/' ∉ fileName token filename := by
  intro member
  rcases List.mem_append.mp member with digit | extension
  · exact absurd (hex _ digit) (by decide)
  · exact slash_not_mem_extensionOf filename extension

theorem length_fileName (token : HexToken) (filename : String) : 2 < (fileName token filename).length := by
  rw [fileName, List.length_append, token.length_digits]
  omega

variable {token : HexToken} (hex : token.IsHex) (ownerId : UserId) (filename : String)

include hex in
theorem names_storageKey :
    Path.names (storageKey ownerId token filename).toList = [(toString ownerId).toList, fileName token filename] := by
  have long := length_fileName token filename
  have file : fileName token filename ≠ [] := List.ne_nil_of_length_pos (by omega)
  rw [toList_storageKey, Path.names_append,
    Path.names_name (not_mem_toString_int rfl (by decide) ownerId) (toList_toString_int_ne_nil ownerId),
    Path.names_name (slash_not_mem_fileName hex filename) file, List.singleton_append]

theorem toString_ne_dots {name : Path.Name} (dotted : '.' ∈ name) : (toString ownerId).toList ≠ name := fun same =>
  not_mem_toString_int rfl (by decide) ownerId (same ▸ dotted)

theorem isAbsolute_toString : Path.isAbsolute (toString ownerId).toList = false := by
  have whole : '/' ∉ (toString ownerId).toList := not_mem_toString_int rfl (by decide) ownerId
  cases numeral : (toString ownerId).toList with
  | nil => rfl
  | cons first rest =>
    have other : first ≠ '/' := fun same => whole (by rw [numeral, same]; exact List.mem_cons_self)
    simp [Path.isAbsolute, other]

theorem isAbsolute_storageKey : Path.isAbsolute (storageKey ownerId token filename).toList = false := by
  have relative := isAbsolute_toString ownerId
  rw [toList_storageKey]
  cases numeral : (toString ownerId).toList with
  | nil => exact absurd numeral (toList_toString_int_ne_nil ownerId)
  | cons first rest => rwa [numeral] at relative

include hex in
theorem storageKey_plain : ∀ name ∈ Path.names (storageKey ownerId token filename).toList,
    name ≠ Path.current ∧ name ≠ Path.parent := by
  have long := length_fileName token filename
  rw [names_storageKey hex]
  intro name member
  rcases List.mem_cons.mp member with rfl | file
  · exact ⟨toString_ne_dots ownerId (by decide), toString_ne_dots ownerId (by decide)⟩
  · rw [List.mem_singleton.mp file]
    constructor <;> intro same <;> exact absurd (same ▸ long) (by decide)

include hex in
theorem storageKey_not_refused : ¬ LocalFileStorage.Refused (storageKey ownerId token filename) := by
  rintro (empty | absolute | upward)
  · have filled := toList_storageKey ownerId token filename
    rw [empty] at filled
    simp at filled
  · rw [isAbsolute_storageKey] at absolute
    cases absolute
  · exact (storageKey_plain hex ownerId filename _ upward).2 rfl

include hex in
theorem normal_storageKey (root : String) :
    Path.normal (Path.join root.toList (storageKey ownerId token filename).toList) =
      Path.normal (ownerDirectory root ownerId) ++ [fileName token filename] := by
  have owner : Path.names (toString ownerId).toList = [(toString ownerId).toList] :=
    Path.names_name (not_mem_toString_int rfl (by decide) ownerId) (toList_toString_int_ne_nil ownerId)
  have plain : ∀ name ∈ Path.names (toString ownerId).toList, name ≠ Path.current ∧ name ≠ Path.parent := by
    rw [owner]
    rintro name (_ | ⟨_, ⟨⟩⟩)
    exact ⟨toString_ne_dots ownerId (by decide), toString_ne_dots ownerId (by decide)⟩
  rw [Path.normal_join_names (isAbsolute_storageKey ownerId filename) (storageKey_plain hex ownerId filename),
    names_storageKey hex, ownerDirectory, Path.normal_join_names (isAbsolute_toString ownerId) plain, owner,
    List.append_assoc, List.singleton_append]

end Keys

/-- No key leads out of the root, and an upload is stored in the directory of its owner. -/
theorem storage_keys_confined (root : String) :
    (∀ key path, LocalFileStorage.resolve root key = .ok path → Path.Under root.toList path.toList) ∧
    (∀ key, (∃ error, LocalFileStorage.resolve root key = .error error) ↔
      key = "" ∨ Path.isAbsolute key.toList = true ∨ Path.parent ∈ Path.names key.toList) ∧
    ∀ (ownerId : UserId) (token : HexToken) (filename : String), token.IsHex →
      ∃ path, LocalFileStorage.resolve root (storageKey ownerId token filename) = .ok path ∧
        Path.isAbsolute path.toList = Path.isAbsolute root.toList ∧
        Path.normal path.toList = Path.normal (ownerDirectory root ownerId) ++ [fileName token filename] := by
  refine ⟨fun key path => LocalFileStorage.under_of_resolve, fun key => ⟨?_, ?_⟩, fun ownerId token filename hex => ?_⟩
  · rintro ⟨error, thrown⟩
    by_contra accepted
    rw [LocalFileStorage.resolve_of_not_refused accepted] at thrown
    cases thrown
  · exact fun refused => LocalFileStorage.resolve_of_refused refused root
  · have resolved := LocalFileStorage.resolve_of_not_refused (storageKey_not_refused hex ownerId filename) root
    refine ⟨_, resolved, (LocalFileStorage.under_of_resolve resolved).absolute, ?_⟩
    rw [String.toList_ofList]
    exact normal_storageKey hex ownerId filename root

def sampleToken : HexToken := ⟨List.replicate 32 'a', List.length_replicate⟩

theorem storage_keys_confined_upward : sampleToken.IsHex ∧
    ∃ path, LocalFileStorage.resolve "uploads" (storageKey 7 sampleToken "../../etc/cron.png") = .ok path ∧
      Path.normal path.toList = Path.normal (ownerDirectory "uploads" 7) ++ [fileName sampleToken "../../etc/cron.png"] := by
  have hex : sampleToken.IsHex := fun c member => by
    rw [List.eq_of_mem_replicate member]
    decide
  obtain ⟨path, resolved, _, inside⟩ := (storage_keys_confined "uploads").2.2 7 sampleToken "../../etc/cron.png" hex
  exact ⟨hex, path, resolved, inside⟩

end RealtimeChat.Media

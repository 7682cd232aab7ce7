import RealtimeChat.Foundation.Program
import RealtimeChat.Foundation.Run
import RealtimeChat.Accounts.Users

/-! Whom a login identifier names.

A user name has no at sign and an address has one, so that no identifier is the
name of one account and the address of another. Names and addresses are unique
up to letter case, and neither has blanks, which a login trims. An address that
is accepted may have a U+0000 before its at sign, and what is stored then has no
at sign.
-/

set_option autoImplicit false

namespace RealtimeChat.Accounts

open Foundation Database

section Letters

variable {first second text : String}

theorem toNat_toLower (c : Char) : c.toLower.toNat = if 65 ≤ c.toNat ∧ c.toNat ≤ 90 then c.toNat + 32 else c.toNat := by
  have upper : (c.val ≥ 'A'.val ∧ c.val ≤ 'Z'.val) ↔ (65 ≤ c.toNat ∧ c.toNat ≤ 90) := by
    simp [UInt32.le_iff_toNat_le]
  delta Char.toLower
  simp only [upper]
  split
  · next range =>
    simp
    omega
  · rfl

theorem toLower_eq_iff {c mark : Char} (low : mark.toNat < 65) : c.toLower = mark ↔ c = mark := by
  rw [← Char.toNat_inj, ← Char.toNat_inj, toNat_toLower]
  split <;> omega

theorem isSpace_eq (c : Char) : isSpace c = decide (c.toNat = 32 ∨ 9 ≤ c.toNat ∧ c.toNat ≤ 13) := by
  simp [isSpace, ← Char.toNat_inj]

theorem isSpace_toLower (c : Char) : isSpace c.toLower = isSpace c := by
  rw [isSpace_eq, isSpace_eq, toNat_toLower, decide_eq_decide]
  split <;> omega

theorem toList_toLower : (toLower text).toList = text.toList.map Char.toLower := String.toList_ofList

theorem mem_toLower {mark : Char} (low : mark.toNat < 65) : mark ∈ (toLower text).toList ↔ mark ∈ text.toList := by
  simp [toList_toLower, toLower_eq_iff low]

def Solid (text : String) : Prop := text.toList ≠ [] ∧ ∀ c ∈ text.toList, isSpace c = false

theorem solid_toLower : Solid (toLower text) ↔ Solid text := by
  simp [Solid, toList_toLower, isSpace_toLower]

theorem Solid.of_toLower_eq (solid : Solid second) (same : toLower first = toLower second) : Solid first := by
  rw [← solid_toLower, same, solid_toLower]
  exact solid

def Blank (text : String) : Prop := ∀ c ∈ text.toList, isSpace c = true

instance (text : String) : Decidable (Blank text) := List.decidableBAll (isSpace · = true) text.toList

theorem dropWhile_solid {blanks rest : List Char} (spaces : ∀ c ∈ blanks, isSpace c = true) (nonempty : rest ≠ [])
    (solid : ∀ c ∈ rest, isSpace c = false) (after : List Char) :
    (blanks ++ (rest ++ after)).dropWhile isSpace = rest ++ after := by
  rw [List.dropWhile_append_of_pos spaces]
  cases rest with
  | nil => exact absurd rfl nonempty
  | cons c rest => exact List.dropWhile_cons_of_neg (by simp [solid c List.mem_cons_self])

theorem trim_around {before after : String} (front : Blank before) (back : Blank after) (solid : Solid text) :
    trim (before ++ text ++ after) = text := by
  have reversed : text.toList.reverse ≠ [] := by simpa using solid.1
  rw [trim, String.toList_append, String.toList_append, List.append_assoc, dropWhile_solid front solid.1 solid.2,
    List.reverse_append]
  have inner := @dropWhile_solid after.toList.reverse text.toList.reverse (by simpa [Blank] using back) reversed
    (by simpa using solid.2) []
  rw [List.append_nil] at inner
  rw [inner, List.reverse_reverse, String.ofList_toList]

end Letters

section Validity

theorem valid_char {c : Char} (valid : isValidUsernameChar c = true) : isSpace c = false ∧ c ≠ '@' ∧ c ≠ '\x00' := by
  delta isValidUsernameChar Char.isAlphanum Char.isAlpha Char.isUpper Char.isLower Char.isDigit at valid
  simp only [Bool.or_eq_true, Bool.and_eq_true, decide_eq_true_eq, UInt32.le_iff_toNat_le, ge_iff_le,
    ← Char.toNat_inj] at valid
  rw [isSpace_eq, decide_eq_false_iff_not, ne_eq, ← Char.toNat_inj, ne_eq, ← Char.toNat_inj]
  simp at valid ⊢
  omega

theorem validateUsername_eq_ok {username : String} (valid : validateUsername username = .ok ()) :
    Solid username ∧ '@' ∉ username.toList ∧ '\x00' ∉ username.toList := by
  unfold validateUsername at valid
  split at valid
  · cases valid
  · split at valid
    · cases valid
    · next starts =>
      split at valid
      · cases valid
      · next chars =>
        simp only [Bool.not_eq_true', Bool.not_eq_false, List.all_eq_true] at chars
        refine ⟨⟨fun empty => ?_, fun c member => (valid_char (chars c member)).1⟩,
          fun member => (valid_char (chars _ member)).2.1 rfl, fun member => (valid_char (chars _ member)).2.2 rfl⟩
        simp [empty] at starts

theorem validateEmail_eq_ok {email : String} (valid : validateEmail email = .ok ()) :
    Solid email ∧ '@' ∈ email.toList := by
  unfold validateEmail at valid
  split at valid
  · cases valid
  · split at valid
    · cases valid
    · next pattern =>
      simp only [matchesEmailPattern, Bool.not_eq_true', Bool.not_eq_false, Bool.and_eq_true, decide_eq_true_eq,
        List.all_eq_true] at pattern
      obtain ⟨⟨⟨⟨sign, solid⟩, _⟩, _⟩, _⟩ := pattern
      exact ⟨⟨List.ne_nil_of_mem sign, solid⟩, sign⟩

theorem validateAndNormalize_eq_ok {request normal : RegisterRequest}
    (valid : request.validateAndNormalize = .ok normal) :
    validateUsername normal.username = .ok () ∧ validateEmail normal.email = .ok () ∧
      validatePassword request.password = .ok () ∧ normal.password = request.password ∧
      normal.email = toLower (trim request.email) := by
  obtain ⟨_, username, valid⟩ := bind_eq_ok.mp valid
  obtain ⟨_, email, valid⟩ := bind_eq_ok.mp valid
  obtain ⟨_, password, valid⟩ := bind_eq_ok.mp valid
  cases valid
  exact ⟨username, email, password, rfl, rfl⟩

theorem validatePassword_eq_ok {password : String} (valid : validatePassword password = .ok ()) :
    password.isEmpty = false := by
  unfold validatePassword at valid
  split at valid
  · cases valid
  · next size =>
    rw [← Bool.not_eq_true, String.isEmpty_iff]
    rintro rfl
    exact size (by decide)

end Validity

/-- The text is the name or the address of the account, in any letter case. -/
def User.Named (user : User) (text : String) : Prop :=
  toLower user.username = toLower text ∨ toLower user.email = toLower text

instance (user : User) (text : String) : Decidable (user.Named text) :=
  inferInstanceAs (Decidable (_ ∨ _))

/-- What the search for an identifier compares. -/
def User.AnswersTo (user : User) (identifier : String) : Prop := user.Named (sent identifier)

instance (user : User) (identifier : String) : Decidable (user.AnswersTo identifier) :=
  inferInstanceAs (Decidable (user.Named (sent identifier)))

/-- One registration: what the client sent, and what the service drew for it. -/
structure Registration where
  request : RegisterRequest
  salt : String
  now : TimePoint

def registering (hasher : PasswordHasher) : Step UserTable Registration := fun users registration =>
  match registerUser hasher users registration.request registration.salt registration.now with
  | .ok (next, _) => some next
  | .error _ => none

def Registration.Made (hasher : PasswordHasher) (registration : Registration) (user : User) : Prop :=
  ∃ normal, registration.request.validateAndNormalize = .ok normal ∧ user.username = normal.username ∧
    user.email = sent normal.email ∧ user.passwordHash = hasher.hash registration.salt registration.request.password

section Accounts

variable {hasher : PasswordHasher}

structure Identified (hasher : PasswordHasher) (registrations : List Registration) (users : UserTable) : Prop where
  made : ∀ user ∈ users, ∃ registration ∈ registrations, registration.Made hasher user
  usernames : ∀ first ∈ users, ∀ second ∈ users, toLower first.username = toLower second.username → first = second
  emails : ∀ first ∈ users, ∀ second ∈ users, toLower first.email = toLower second.email → first = second

variable {users : UserTable}

theorem hasUsername_eq_false {username : String} :
    hasUsername users username = false ↔ ∀ user ∈ users, toLower user.username ≠ toLower (sent username) := by
  simp [hasUsername]
  exact Iff.rfl

theorem hasEmail_eq_false {email : String} :
    hasEmail users email = false ↔ ∀ user ∈ users, toLower user.email ≠ toLower (sent email) := by
  simp [hasEmail]
  exact Iff.rfl

theorem apart_append {column : User → String} {build : Int → User} {keyed : ∀ id, (build id).id = id}
    (apart : ∀ first ∈ users, ∀ second ∈ users, column first = column second → first = second)
    (fresh : ∀ user ∈ users, column user ≠ column (build users.next)) :
    ∀ first ∈ users.append build keyed, ∀ second ∈ users.append build keyed,
      column first = column second → first = second := by
  intro first one second two same
  rcases Serial.mem_append.mp one with old | rfl
  · rcases Serial.mem_append.mp two with older | rfl
    · exact apart first old second older same
    · exact absurd same (fresh first old)
  · rcases Serial.mem_append.mp two with older | rfl
    · exact absurd same.symm (fresh second older)
    · rfl

variable {registration : Registration} {identifier : String}

theorem Identified.step {registrations : List Registration} {users next : UserTable}
    (identified : Identified hasher registrations users)
    (registered : registering hasher users registration = some next) :
    Identified hasher (registration :: registrations) next := by
  unfold registering at registered
  split at registered
  · next after user accepted =>
    cases registered
    obtain ⟨normal, valid, created⟩ := bind_eq_ok.mp accepted
    obtain ⟨free, unused, rfl, _⟩ := create_adds created
    refine ⟨fun user member => ?_, ?_, ?_⟩
    · rcases Serial.mem_append.mp member with old | rfl
      · obtain ⟨earlier, listed, made⟩ := identified.made user old
        exact ⟨earlier, List.mem_cons_of_mem _ listed, made⟩
      · obtain ⟨name, _, _, password, _⟩ := validateAndNormalize_eq_ok valid
        refine ⟨registration, List.mem_cons_self, normal, valid, ?_, rfl, ?_⟩
        · exact sent_of_whole (validateUsername_eq_ok name).2.2
        · rw [← password]
          rfl
    · exact apart_append identified.usernames (hasUsername_eq_false.mp free)
    · exact apart_append identified.emails (hasEmail_eq_false.mp unused)
  · cases registered

theorem Identified.run {before registrations : List Registration} {users final : UserTable}
    (identified : Identified hasher before users) (ran : (registering hasher).run users registrations = some final) :
    Identified hasher (registrations.reverse ++ before) final := by
  induction registrations generalizing before users with
  | nil =>
    cases ran
    exact identified
  | cons registration rest ih =>
    obtain ⟨next, registered, ran⟩ := Step.run_cons.mp ran
    rw [List.reverse_cons, List.append_assoc]
    exact ih (identified.step registered) ran

theorem identified_of_run {registrations : List Registration}
    (ran : (registering hasher).run (.empty _) registrations = some users) : Identified hasher registrations users := by
  have initially : Identified hasher [] (.empty _) :=
    ⟨fun _ member => absurd member Serial.not_mem_empty, fun _ member => absurd member Serial.not_mem_empty,
      fun _ member => absurd member Serial.not_mem_empty⟩
  have reached := initially.run ran
  refine ⟨fun user member => ?_, reached.usernames, reached.emails⟩
  simpa using reached.made user member

variable {registrations : List Registration} {users : UserTable} {user : User}

/-- The two texts that an account of the registration is found by. -/
structure Addressable (user : User) : Prop where
  username : Solid user.username ∧ '@' ∉ user.username.toList ∧ '\x00' ∉ user.username.toList
  email : Solid user.email ∧ '@' ∈ user.email.toList ∧ '\x00' ∉ user.email.toList

theorem Registration.Made.addressable (made : registration.Made hasher user)
    (whole : '\x00' ∉ registration.request.email.toList) : Addressable user := by
  obtain ⟨normal, valid, username, email, _⟩ := made
  obtain ⟨validName, validEmail, _, _, address⟩ := validateAndNormalize_eq_ok valid
  have kept : '\x00' ∉ normal.email.toList := by
    rw [address, mem_toLower (by decide)]
    exact fun member => whole (mem_trim member)
  rw [sent_of_whole kept] at email
  obtain ⟨solid, sign⟩ := validateEmail_eq_ok validEmail
  exact ⟨username ▸ validateUsername_eq_ok validName, email ▸ ⟨solid, sign, kept⟩⟩

def WholeAddresses (registrations : List Registration) : Prop :=
  ∀ registration ∈ registrations, '\x00' ∉ registration.request.email.toList

section

variable (identified : Identified hasher registrations users) (whole : WholeAddresses registrations)

include identified whole

theorem Identified.addressable (member : user ∈ users) : Addressable user := by
  obtain ⟨registration, listed, made⟩ := identified.made user member
  exact made.addressable (whole registration listed)

theorem Identified.unique {first second : User}
    (one : first ∈ users) (two : second ∈ users) (answers : first.AnswersTo identifier)
    (answersToo : second.AnswersTo identifier) : first = second := by
  -- A name is never an address: the letter case does not matter for the at sign.
  have apart {named addressed : User} (name : named ∈ users) (address : addressed ∈ users)
      (same : toLower named.username = toLower addressed.email) : False := by
    refine (identified.addressable whole name).username.2.1 ((mem_toLower (by decide)).mp ?_)
    rw [same, mem_toLower (by decide)]
    exact (identified.addressable whole address).email.2.1
  rcases answers with name | address <;> rcases answersToo with name' | address'
  · exact identified.usernames first one second two (name.trans name'.symm)
  · exact (apart one two (name.trans address'.symm)).elim
  · exact (apart two one (name'.trans address.symm)).elim
  · exact identified.emails first one second two (address.trans address'.symm)

theorem Identified.find
    (member : user ∈ users) (answers : user.AnswersTo identifier) : findByIdentifier users identifier = some user := by
  cases found : findByIdentifier users identifier with
  | none =>
    have absent := List.find?_eq_none.mp found user member
    exact absurd answers (by simpa [User.AnswersTo, User.Named] using absent)
  | some other =>
    have answersToo : other.AnswersTo identifier := by
      simpa [User.AnswersTo, User.Named] using List.find?_some found
    rw [identified.unique whole (List.mem_of_find?_eq_some found) member answersToo answers]

end

theorem authenticate_of_find {password : String} (found : findByIdentifier users (trim identifier) = some user)
    (named : (trim identifier).isEmpty = false) :
    authenticate hasher users ⟨identifier, password⟩ =
      if password.isEmpty then .error (invalid "Password is required" "password")
      else if hasher.verify password user.passwordHash then .ok user else .error invalidCredentials := by
  unfold authenticate LoginRequest.validateAndNormalize
  simp only [named, Bool.false_eq_true, if_false]
  split
  · rfl
  · rw [ok_bind]
    simp only [found]

theorem Addressable.named {text : String} (addressable : Addressable user) (named : user.Named text) :
    Solid text ∧ '\x00' ∉ text.toList := by
  have same {own : String} (solid : Solid own) (whole : '\x00' ∉ own.toList) (equal : toLower own = toLower text) :
      Solid text ∧ '\x00' ∉ text.toList := by
    rw [← mem_toLower (by decide), ← equal, mem_toLower (by decide)]
    exact ⟨solid.of_toLower_eq equal.symm, whole⟩
  rcases named with name | address
  · exact same addressable.username.1 addressable.username.2.2 name
  · exact same addressable.email.1 addressable.email.2.2 address

/-- After any registrations of addresses without U+0000, an identifier belongs to at most one account,
and an account is signed in by its name or its address, whatever the letter case and the blanks
around it, with the password it was registered with and with no other. -/
theorem credentials_identify
    (exact : ∀ salt password other, hasher.verify other (hasher.hash salt password) = true ↔ other = password)
    (ran : (registering hasher).run (.empty _) registrations = some users) (whole : WholeAddresses registrations) :
    (∀ identifier, ∀ first ∈ users, ∀ second ∈ users, first.AnswersTo identifier → second.AnswersTo identifier →
      first = second) ∧
    ∀ user ∈ users, ∃ registration ∈ registrations, registration.Made hasher user ∧
      ∀ before spelling after, Blank before → Blank after → user.Named spelling →
        authenticate hasher users ⟨before ++ spelling ++ after, registration.request.password⟩ = .ok user ∧
        ∀ other, other ≠ registration.request.password →
          authenticate hasher users ⟨before ++ spelling ++ after, other⟩ =
            .error (if other.isEmpty then invalid "Password is required" "password" else invalidCredentials) := by
  have identified := identified_of_run ran
  refine ⟨fun identifier first one second two => identified.unique whole one two, fun user member => ?_⟩
  obtain ⟨registration, listed, made⟩ := identified.made user member
  refine ⟨registration, listed, made, fun before spelling after front back named => ?_⟩
  obtain ⟨solid, kept⟩ := (identified.addressable whole member).named named
  have answers : user.AnswersTo spelling := by
    rw [User.AnswersTo, sent_of_whole kept]
    exact named
  have trimmed := trim_around front back solid
  have given : (trim (before ++ spelling ++ after)).isEmpty = false := by
    rw [trimmed, ← Bool.not_eq_true, String.isEmpty_iff]
    rintro rfl
    exact solid.1 rfl
  have found : findByIdentifier users (trim (before ++ spelling ++ after)) = some user := by
    rw [trimmed]
    exact identified.find whole member answers
  obtain ⟨normal, valid, _, _, hashed⟩ := made
  have passwordGiven := validatePassword_eq_ok (validateAndNormalize_eq_ok valid).2.2.1
  refine ⟨?_, fun other different => ?_⟩
  · rw [authenticate_of_find found given, hashed, passwordGiven, if_neg Bool.false_ne_true, if_pos ((exact _ _ _).mpr rfl)]
  · rw [authenticate_of_find found given, hashed, if_neg (mt (exact _ _ _).mp different)]
    split <;> rfl

end Accounts

def evesRegistration : Registration := ⟨⟨" Eve", "Eve@Example.org", "correct horse"⟩, "salt", 0⟩

theorem credentials_identify_eve : ∃ users, (registering plainHasher).run (.empty _) [evesRegistration] = some users ∧
      ∃ user ∈ users, user.username = "Eve" ∧ user.email = "eve@example.org" ∧
        authenticate plainHasher users ⟨" " ++ "EVE" ++ "\t", "correct horse"⟩ = .ok user ∧
        authenticate plainHasher users ⟨"" ++ "eve@Example.ORG" ++ " ", "correct horse "⟩ = .error invalidCredentials := by
  obtain ⟨users, ran, shown⟩ := (Option.any_eq_true _ _).mp (by decide +kernel :
    ((registering plainHasher).run (.empty _) [evesRegistration]).any fun users =>
      users.table.rows.any fun user => user.username = "Eve" && user.email = "eve@example.org")
  simp only [List.any_eq_true, Bool.and_eq_true, decide_eq_true_eq] at shown
  obtain ⟨user, member, username, email⟩ := shown
  have exact : ∀ salt password other, plainHasher.verify other (plainHasher.hash salt password) = true ↔ other = password :=
    fun _ _ _ => decide_eq_true_iff
  have whole : WholeAddresses [evesRegistration] := List.forall_mem_singleton.mpr (by decide)
  obtain ⟨registration, listed, _, signsIn⟩ := (credentials_identify exact ran whole).2 user member
  obtain rfl := List.mem_singleton.mp listed
  have name : user.Named "EVE" := Or.inl (by rw [username]; decide +kernel)
  have address : user.Named "eve@Example.ORG" := Or.inr (by rw [email]; decide +kernel)
  refine ⟨users, ran, user, member, username, email, ?_, ?_⟩
  · exact (signsIn " " "EVE" "\t" (by decide) (by decide) name).1
  · exact (signsIn "" "eve@Example.ORG" " " (by decide) (by decide) address).2 "correct horse " (by decide)

def bobAndEve : List Registration :=
  [⟨⟨"bob", "bob@example.org", "correct horse"⟩, "salt", 0⟩, ⟨⟨"eve", "bob\x00@x.y", "battery staple"⟩, "salt", 1⟩]

/-- The second address is stored up to the U+0000, and what is left of it is the first name. -/
theorem name_shared_with_cut_address : ∃ users, (registering plainHasher).run (.empty _) bobAndEve = some users ∧
      ∃ first ∈ users, ∃ second ∈ users, first ≠ second ∧ first.AnswersTo "bob" ∧ second.AnswersTo "bob" := by
  obtain ⟨users, ran, shown⟩ := (Option.any_eq_true _ _).mp (by decide +kernel :
    ((registering plainHasher).run (.empty _) bobAndEve).any fun users =>
      users.table.rows.any fun first => users.table.rows.any fun second =>
        first ≠ second && first.AnswersTo "bob" && second.AnswersTo "bob")
  simp only [List.any_eq_true, Bool.and_eq_true, decide_eq_true_eq] at shown
  obtain ⟨first, one, second, two, ⟨apart, answers⟩, answersToo⟩ := shown
  exact ⟨users, ran, first, one, second, two, apart, answers, answersToo⟩

end RealtimeChat.Accounts

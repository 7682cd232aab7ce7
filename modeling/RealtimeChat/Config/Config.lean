import RealtimeChat.Security.Token
import RealtimeChat.Foundation.Conninfo

/-! The configuration and the connection string that is made of it.

The settings of the database go into the connection string as they are. The
fields that neither the validation nor the connection string reads are left out.
-/

set_option autoImplicit false

namespace RealtimeChat

open Foundation

structure Config where
  dbHost : String := "localhost"
  dbPort : UInt16 := 5432
  dbName : String := "realtime_chat"
  dbUser : String := "chat"
  dbPassword : String := "chat_password"
  jwtSecret : String := "dev-insecure-secret-change-me-in-production"
  jwtAccessTtlSeconds : Int := 900
  jwtRefreshTtlSeconds : Int := 1209600
  wsHeartbeatIntervalSeconds : Int := 30
  wsHeartbeatTimeoutSeconds : Int := 90
  redisEnabled : Bool := false
  tracingExporter : String := "logging"
  clusterEnabled : Bool := false
  appEnv : String := "development"
  deriving DecidableEq, Repr

namespace Config

def misconfigured (message : String) : AppException := ⟨.configuration, message, ""⟩

def isProduction (config : Config) : Bool := config.appEnv = "production"

def validate (config : Config) : Result Unit :=
  if config.jwtSecret.isEmpty then .error (misconfigured "JWT_SECRET must not be empty")
  else if config.isProduction && config.jwtSecret = "dev-insecure-secret-change-me-in-production" then
    .error (misconfigured "JWT_SECRET must be overridden in production")
  else if config.isProduction && config.jwtSecret.utf8ByteSize < 32 then
    .error (misconfigured "JWT_SECRET must be at least 32 bytes in production")
  else if config.jwtRefreshTtlSeconds < config.jwtAccessTtlSeconds then
    .error (misconfigured "JWT refresh TTL must be >= access TTL")
  else if config.dbName.isEmpty || config.dbUser.isEmpty || config.dbHost.isEmpty then
    .error (misconfigured "Database host, name and user must not be empty")
  else if config.wsHeartbeatTimeoutSeconds < config.wsHeartbeatIntervalSeconds then
    .error (misconfigured "WS heartbeat timeout must be >= heartbeat interval")
  else if config.tracingExporter ≠ "logging" ∧ config.tracingExporter ≠ "otlp" ∧ config.tracingExporter ≠ "zipkin" then
    .error ⟨.configuration, "TRACING_EXPORTER must be one of: logging, otlp, zipkin",
      "TRACING_EXPORTER='" ++ config.tracingExporter ++ "'"⟩
  else if config.clusterEnabled && !config.redisEnabled then
    .error (misconfigured ("CLUSTER_ENABLED requires REDIS_ENABLED: Redis Pub/Sub is the transport for " ++
      "cross-instance WebSocket delivery"))
  else .ok ()

section Environment

abbrev Environment := String → Option String

def getEnvOr (env : Environment) (name fallback : String) : String :=
  match env name with
  | none => fallback
  | some value => if value.isEmpty then fallback else value

def malformed (message name raw : String) : AppException := ⟨.configuration, message, name ++ "='" ++ raw ++ "'"⟩

/-- `std::from_chars` over the whole text, in the range of an unsigned 64-bit integer. -/
def readUnsigned (text : String) : Option Nat :=
  if text.isEmpty || !text.toList.all Char.isDigit then none
  else some (Nat.ofDigitChars 10 text.toList 0) |>.filter (· < 18446744073709551616)

def parseUintEnv (env : Environment) (name : String) (fallback least most : Nat) : Result Nat :=
  match env name with
  | none => .ok fallback
  | some raw =>
    if raw.isEmpty then .ok fallback
    else match readUnsigned raw with
      | none => .error (malformed "Invalid integer for environment variable" name raw)
      | some parsed =>
        if parsed < least ∨ most < parsed then .error (malformed "Value out of range for environment variable" name raw)
        else .ok parsed

def parseInt64Env (env : Environment) (name : String) (fallback least : Int) : Result Int :=
  match env name with
  | none => .ok fallback
  | some raw =>
    if raw.isEmpty then .ok fallback
    else match Security.parseSubject raw with
      | none => .error (malformed "Invalid integer for environment variable" name raw)
      | some parsed =>
        if parsed < least then .error (malformed "Value out of range for environment variable" name raw)
        else .ok parsed

def parseBoolEnv (env : Environment) (name : String) (fallback : Bool) : Bool :=
  match env name with
  | none => fallback
  | some raw =>
    if raw.isEmpty then fallback
    else ["1", "true", "yes", "on"].contains (String.ofList (raw.toList.map Char.toLower))

def loadFromEnv (env : Environment) : Result Config := do
  let defaults : Config := {}
  let dbPort ← parseUintEnv env "DB_PORT" defaults.dbPort.toNat 1 65535
  let accessTtl ← parseInt64Env env "JWT_ACCESS_TTL_SECONDS" defaults.jwtAccessTtlSeconds 1
  let refreshTtl ← parseInt64Env env "JWT_REFRESH_TTL_SECONDS" defaults.jwtRefreshTtlSeconds 1
  let heartbeatInterval ← parseInt64Env env "WS_HEARTBEAT_INTERVAL_SECONDS" defaults.wsHeartbeatIntervalSeconds 1
  let heartbeatTimeout ← parseInt64Env env "WS_HEARTBEAT_TIMEOUT_SECONDS" defaults.wsHeartbeatTimeoutSeconds 1
  let redisEnabled := parseBoolEnv env "REDIS_ENABLED" defaults.redisEnabled
  let config : Config :=
    { dbHost := getEnvOr env "DB_HOST" defaults.dbHost
      dbPort := dbPort.toUInt16
      dbName := getEnvOr env "DB_NAME" defaults.dbName
      dbUser := getEnvOr env "DB_USER" defaults.dbUser
      dbPassword := getEnvOr env "DB_PASSWORD" defaults.dbPassword
      jwtSecret := getEnvOr env "JWT_SECRET" defaults.jwtSecret
      jwtAccessTtlSeconds := accessTtl
      jwtRefreshTtlSeconds := refreshTtl
      wsHeartbeatIntervalSeconds := heartbeatInterval
      wsHeartbeatTimeoutSeconds := heartbeatTimeout
      redisEnabled := redisEnabled
      tracingExporter := getEnvOr env "TRACING_EXPORTER" defaults.tracingExporter
      clusterEnabled := parseBoolEnv env "CLUSTER_ENABLED" redisEnabled
      appEnv := getEnvOr env "APP_ENV" defaults.appEnv }
  config.validate
  return config

end Environment

def databaseConnectionString (config : Config) : String :=
  "host=" ++ config.dbHost ++ " port=" ++ toString config.dbPort.toNat ++ " dbname=" ++ config.dbName ++
    " user=" ++ config.dbUser ++ " password=" ++ config.dbPassword ++
    " connect_timeout=5 application_name=realtime-chat"

/-- The settings that the connection string is meant to carry: five from the configuration, two fixed. -/
def settings (config : Config) : List Conninfo.Setting :=
  [⟨"host".toList, config.dbHost.toList⟩, ⟨"port".toList, (toString config.dbPort.toNat).toList⟩,
    ⟨"dbname".toList, config.dbName.toList⟩, ⟨"user".toList, config.dbUser.toList⟩,
    ⟨"password".toList, config.dbPassword.toList⟩, ⟨"connect_timeout".toList, "5".toList⟩,
    ⟨"application_name".toList, "realtime-chat".toList⟩]

theorem validate_of_loadFromEnv {env : Environment} {config : Config} (loaded : loadFromEnv env = .ok config) :
    config.validate = .ok () := by
  unfold loadFromEnv at loaded
  iterate 5 obtain ⟨_, _, loaded⟩ := bind_eq_ok.mp loaded
  obtain ⟨⟨⟩, valid, loaded⟩ := bind_eq_ok.mp loaded
  cases loaded
  exact valid

theorem filled_of_validate {config : Config} (valid : config.validate = .ok ()) :
    config.dbHost ≠ "" ∧ config.dbName ≠ "" ∧ config.dbUser ≠ "" := by
  unfold validate at valid
  -- The four checks before that of the texts say nothing about them.
  iterate 4
    split at valid
    · cases valid
  split at valid
  · cases valid
  next named =>
  simp only [Bool.or_eq_true, String.isEmpty_iff, not_or] at named
  exact ⟨named.2, named.1.1, named.1.2⟩

variable (config : Config)

theorem toList_databaseConnectionString : config.databaseConnectionString.toList = Conninfo.render config.settings := by
  have host : "host=".toList = "host".toList ++ ['='] := by decide +kernel
  have port : " port=".toList = ' ' :: ("port".toList ++ ['=']) := by decide +kernel
  have name : " dbname=".toList = ' ' :: ("dbname".toList ++ ['=']) := by decide +kernel
  have user : " user=".toList = ' ' :: ("user".toList ++ ['=']) := by decide +kernel
  have password : " password=".toList = ' ' :: ("password".toList ++ ['=']) := by decide +kernel
  have fixed : " connect_timeout=5 application_name=realtime-chat".toList =
      ' ' :: ("connect_timeout".toList ++ '=' :: ("5".toList ++
        ' ' :: ("application_name".toList ++ '=' :: "realtime-chat".toList))) := by decide +kernel
  delta databaseConnectionString
  simp only [settings, Conninfo.render, Conninfo.Setting.text, String.toList_append, host, port,
    name, user, password, fixed, List.append_assoc, List.cons_append, List.nil_append]

theorem map_name_settings : config.settings.map Conninfo.Setting.name = (settings {}).map Conninfo.Setting.name := by
  simp only [settings, List.map_cons, List.map_nil]

theorem word_of_settings : ∀ setting ∈ config.settings, Conninfo.Word setting.name := by
  have words : ∀ name ∈ (settings {}).map Conninfo.Setting.name, Conninfo.Word name := by decide +kernel
  intro setting member
  apply words
  rw [← map_name_settings config]
  exact List.mem_map_of_mem member

theorem getLast?_render_settings : (Conninfo.render config.settings).getLast? = some 't' := by
  rw [← toList_databaseConnectionString]
  delta databaseConnectionString
  rw [String.toList_append, List.getLast?_append]
  rfl

theorem plain_toString (number : Nat) :
    Conninfo.Plain (toString number).toList ∧ '\x00' ∉ (toString number).toList := by
  have digits : (toString number).toList = Nat.toDigits 10 number := Nat.toList_repr
  have digit {c : Char} (member : c ∈ Nat.toDigits 10 number) : c.isDigit :=
    Nat.isDigit_of_mem_toDigits (by decide) (by decide) member
  have other {c d : Char} (member : c ∈ Nat.toDigits 10 number) (letter : d.isDigit = false) : c ≠ d :=
    ne_of_apply_ne Char.isDigit (by rw [digit member, letter]; decide)
  rw [digits]
  refine ⟨⟨Nat.toDigits_ne_nil, fun quoted => other (List.mem_of_head? quoted) rfl rfl, ?_⟩, fun nul => other nul rfl rfl⟩
  intro c member
  have least : 48 ≤ c.toNat := by
    have bounds := digit member
    simp only [Char.isDigit, Bool.and_eq_true, decide_eq_true_eq, ge_iff_le, UInt32.le_iff_toNat_le] at bounds
    exact bounds.1
  refine ⟨?_, other member rfl⟩
  simp only [Conninfo.isSpace, Bool.or_eq_false_iff, decide_eq_false_iff_not, Bool.and_eq_false_iff]
  exact ⟨other member rfl, Or.inr (by omega)⟩

/-- A text without white space, backslash and NUL that does not begin with a quote. -/
def Bare (text : String) : Prop :=
  text.toList.head? ≠ some '\'' ∧ ∀ c ∈ text.toList, Conninfo.isSpace c = false ∧ c ≠ '\\' ∧ c ≠ '\x00'

instance (text : String) : Decidable (Bare text) :=
  letI : Decidable (∀ c ∈ text.toList, Conninfo.isSpace c = false ∧ c ≠ '\\' ∧ c ≠ '\x00') := List.decidableBAll _ _
  inferInstanceAs (Decidable (_ ∧ _))

theorem plain_iff {text : String} (filled : text ≠ "") :
    Conninfo.Plain text.toList ∧ '\x00' ∉ text.toList ↔ Bare text := by
  constructor
  · rintro ⟨plain, whole⟩
    refine ⟨plain.unquoted, fun c member => ⟨(plain.bare c member).1, (plain.bare c member).2, ?_⟩⟩
    rintro rfl
    exact whole member
  · rintro ⟨unquoted, bare⟩
    refine ⟨⟨by simpa using filled, unquoted, fun c member => ⟨(bare c member).1, (bare c member).2.1⟩⟩, ?_⟩
    exact fun nul => (bare _ nul).2.2 rfl

/-- libpq reads the connection string of a valid configuration as its settings and no others exactly when the
four texts of the configuration need no quotes and there is a password. -/
theorem connection_string_read_iff {config : Config} (valid : config.validate = .ok ()) :
    Conninfo.Reads config.databaseConnectionString.toList config.settings ↔
      Bare config.dbHost ∧ Bare config.dbName ∧ Bare config.dbUser ∧ Bare config.dbPassword ∧
        config.dbPassword ≠ "" := by
  obtain ⟨host, name, user⟩ := filled_of_validate valid
  have distinct : (config.settings.map Conninfo.Setting.name).Nodup := by
    rw [map_name_settings]
    decide +kernel
  have ends : (Conninfo.render config.settings).getLast? ≠ some '=' := by
    rw [getLast?_render_settings]
    decide
  have some : config.settings ≠ [] := List.cons_ne_nil _ _
  rw [toList_databaseConnectionString, Conninfo.reads_render_iff some distinct (word_of_settings config) ends]
  have port := plain_toString config.dbPort.toNat
  have timeout : Conninfo.Plain "5".toList ∧ '\x00' ∉ "5".toList := by decide +kernel
  have application : Conninfo.Plain "realtime-chat".toList ∧ '\x00' ∉ "realtime-chat".toList := by decide +kernel
  simp only [settings, List.forall_mem_cons, plain_iff host, plain_iff name, plain_iff user, port, timeout, application,
    not_false_eq_true, true_and, List.not_mem_nil, false_imp_iff, implies_true, and_true]
  constructor
  · rintro ⟨bareHost, bareName, bareUser, password⟩
    have filled : config.dbPassword ≠ "" := by simpa using password.1.filled
    exact ⟨bareHost, bareName, bareUser, (plain_iff filled).mp password, filled⟩
  · rintro ⟨bareHost, bareName, bareUser, barePassword, filled⟩
    exact ⟨bareHost, bareName, bareUser, (plain_iff filled).mpr barePassword⟩

theorem connection_string_read_iff_default :
    (validate {} = .ok ()) ∧ Conninfo.Reads (databaseConnectionString {}).toList (settings {}) := by
  have valid : validate {} = .ok () := by decide +kernel
  exact ⟨valid, (connection_string_read_iff valid).mpr (by decide +kernel)⟩

def spacedPassword : Config := { dbPassword := "secret sslmode=disable" }

/-- Built in code: an empty variable counts as unset when the environment is read. -/
def noPassword : Config := { dbPassword := "" }

/-- A password with a blank is cut there and what follows is a setting of its own; without a password the
timeout is read in its place. -/
theorem password_read_as_settings :
    (spacedPassword.validate = .ok () ∧
      (Conninfo.parse spacedPassword.databaseConnectionString.toList).map (Conninfo.lookup · "sslmode".toList) =
        .ok (some "disable".toList) ∧
      ¬ Conninfo.Reads spacedPassword.databaseConnectionString.toList spacedPassword.settings) ∧
    (noPassword.validate = .ok () ∧
      (Conninfo.parse noPassword.databaseConnectionString.toList).map (Conninfo.lookup · "password".toList) =
        .ok (some "connect_timeout=5".toList) ∧
      ¬ Conninfo.Reads noPassword.databaseConnectionString.toList noPassword.settings) := by
  have injected : (Conninfo.parse spacedPassword.databaseConnectionString.toList).map
      (Conninfo.lookup · "sslmode".toList) = .ok (some "disable".toList) := by decide +kernel
  have swallowed : (Conninfo.parse noPassword.databaseConnectionString.toList).map
      (Conninfo.lookup · "password".toList) = .ok (some "connect_timeout=5".toList) := by decide +kernel
  exact ⟨⟨by decide +kernel, injected, Conninfo.not_reads injected (by decide +kernel)⟩,
    by decide +kernel, swallowed, Conninfo.not_reads swallowed (by decide +kernel)⟩

end Config

end RealtimeChat

import RustWhois.Std.IpDisplay
import RustWhois.Services

/-!
# Loading the configuration

`Config::load`: defaults after the capabilities of the host, settings from its environment variables,
and the checks of `validate`.

* `Host`: what is found on the host; `SystemCapabilities`: the defaults;
* `Settings`, `applyEnvOverrides`: the settings by their keys;
* **`applyEnvOverrides_apply`**: the last variable of a key that is set wins;
* **`load_eq_ok_iff`**: what is loaded;
* **`load_of_plain`**: without variables, every host has a configuration, and it is faultless.
-/

namespace RustWhois

open Rust

/-- `str::parse` of an unsigned type of so many bits. -/
def parseUnsigned (bits : Nat) (s : Text) : Option Nat :=
  let digits := match s with
    | '+' :: rest => rest
    | _ => s
  if digits ≠ [] ∧ digits.all fun c => (toDigit 10 c).isSome then
    (some (digitsValue 10 digits)).filter (· < 2 ^ bits)
  else none

/-! ## The host -/

/-- What is found on a Linux host. -/
structure Host where
  /-- `/proc/meminfo`, if it is read. -/
  meminfo : Option Text
  availableParallelism : Option Nat
  /-- `env::var`. -/
  var : Text → Option Text
  /-- The product with `0.001`, in floating point, cut to an integer. -/
  thousandth : Nat → Nat

/-- `split_whitespace().nth(1)`. -/
def secondWord (line : Text) : Option Text :=
  Text.firstWord ((line.dropWhile isWhitespace).dropWhile fun c => !isWhitespace c)

/-- The number of a line of `/proc/meminfo`. -/
def memAvailable (line : Text) : Option Nat :=
  if line.startsWith "MemAvailable:" then (secondWord line).bind (parseUnsigned 64) else none

namespace Config

/-- `get_available_memory`, in bytes: as in a release build, an overflow wraps around. -/
def getAvailableMemory (host : Host) : Nat :=
  match host.meminfo.bind fun meminfo => meminfo.lines.findSome? memAvailable with
  | some kb => kb * 1024 % 2 ^ 64
  | none => 4 * 1024 * 1024 * 1024

/-- `get_cpu_cores`. -/
def getCpuCores (host : Host) : Nat := host.availableParallelism.getD 4

/-- `is_production_value`. -/
def isProductionValue (value : Option Text) : Bool :=
  (value.map fun env => toLowercase env == "production" || toLowercase env == "prod").getD false

/-- `is_production_environment`. -/
def isProductionEnvironment (host : Host) : Bool :=
  isProductionValue ((host.var "ENVIRONMENT").or (host.var "ENV"))

/-- `calculate_max_response_size`. -/
def calculateMaxResponseSize (host : Host) (availableMemory : Nat) : Nat :=
  max (1024 * 1024) (min (host.thousandth availableMemory) (10 * 1024 * 1024))

/-- A value after the memory, for low, medium, high and very high memory. -/
def byMemory (availableMemory low medium high veryHigh : Nat) : Nat :=
  let gb := availableMemory / (1024 * 1024 * 1024)
  if gb ≤ 2 then low else if gb ≤ 8 then medium else if gb ≤ 16 then high else veryHigh

/-- `calculate_cache_size`. -/
def calculateCacheSize (availableMemory : Nat) : Nat :=
  byMemory availableMemory 1000 5000 10000 25000

/-- `calculate_buffer_pool_size`. -/
def calculateBufferPoolSize (availableMemory : Nat) : Nat :=
  byMemory availableMemory 10 50 100 200

/-- `calculate_buffer_size`. -/
def calculateBufferSize (availableMemory : Nat) : Nat :=
  byMemory availableMemory 4096 8192 16384 32768

/-- `get_default_port`: the first of the variables that is set decides. -/
def getDefaultPort (host : Host) : Nat :=
  ((((host.var "PORT").or (host.var "HTTP_PORT")).or (host.var "SERVER_PORT")).bind
    (parseUnsigned 16)).getD 3000

end Config

structure SystemCapabilities where
  defaultTimeout : Nat
  maxResponseSize : Nat
  cacheTtl : Nat
  cacheMaxEntries : Nat
  maxReferrals : Nat
  discoveryTimeout : Nat
  concurrentWhoisQueries : Nat
  bufferPoolSize : Nat
  bufferSize : Nat

/-- `detect_system_capabilities`. -/
def Config.detectSystemCapabilities (host : Host) : SystemCapabilities :=
  let availableMemory := getAvailableMemory host
  let isProduction := isProductionEnvironment host
  { defaultTimeout := if isProduction then 30 else 15
    maxResponseSize := calculateMaxResponseSize host availableMemory
    cacheTtl := if isProduction then 3600 else 1800
    cacheMaxEntries := calculateCacheSize availableMemory
    maxReferrals := if isProduction then 10 else 5
    discoveryTimeout := if isProduction then 20 else 10
    concurrentWhoisQueries := min (getCpuCores host) 8
    bufferPoolSize := calculateBufferPoolSize availableMemory
    bufferSize := calculateBufferSize availableMemory }

/-! ## Settings -/

inductive Setting
  | number (n : Nat)
  | text (value : Text)
  deriving DecidableEq

/-- The settings by their keys. -/
abbrev Settings : Type := Text → Option Setting

def Settings.set (key : Text) (value : Setting) (self : Settings) : Settings :=
  Function.update self key (some value)

/-- The reader of the `config` crate: an unsigned integer of so many bits, and the error for a missing
field. -/
structure SettingReader where
  uint : Nat → Setting → Except Text Nat
  missing : Text → Text

namespace Config

/-- The defaults of `load`. -/
def defaults (host : Host) : Settings :=
  let systemInfo := detectSystemCapabilities host
  let number (key : Text) (n : Nat) : Settings → Settings := Settings.set key (.number n)
  number "port" (getDefaultPort host) <|
  number "whois_timeout_seconds" systemInfo.defaultTimeout <|
  number "max_response_size" systemInfo.maxResponseSize <|
  number "cache_ttl_seconds" systemInfo.cacheTtl <|
  number "negative_cache_ttl_seconds" 300 <|
  number "cache_max_entries" systemInfo.cacheMaxEntries <|
  number "max_referrals" systemInfo.maxReferrals <|
  number "discovery_timeout_seconds" systemInfo.discoveryTimeout <|
  number "concurrent_whois_queries" systemInfo.concurrentWhoisQueries <|
  number "buffer_pool_size" systemInfo.bufferPoolSize <|
  number "buffer_size" systemInfo.bufferSize fun _ => none

/-- The variables, in their order, with the keys that they set. -/
def envMappings : List (Text × Text) :=
  [("PORT", "port"),
    ("WHOIS_TIMEOUT_SECONDS", "whois_timeout_seconds"),
    ("WHOIS_TIMEOUT", "whois_timeout_seconds"),
    ("MAX_RESPONSE_SIZE", "max_response_size"),
    ("CACHE_TTL_SECONDS", "cache_ttl_seconds"),
    ("CACHE_TTL", "cache_ttl_seconds"),
    ("NEGATIVE_CACHE_TTL_SECONDS", "negative_cache_ttl_seconds"),
    ("NEGATIVE_CACHE_TTL", "negative_cache_ttl_seconds"),
    ("CACHE_MAX_ENTRIES", "cache_max_entries"),
    ("CACHE_SIZE", "cache_max_entries"),
    ("MAX_REFERRALS", "max_referrals"),
    ("DISCOVERY_TIMEOUT_SECONDS", "discovery_timeout_seconds"),
    ("DISCOVERY_TIMEOUT", "discovery_timeout_seconds"),
    ("CONCURRENT_WHOIS_QUERIES", "concurrent_whois_queries"),
    ("BUFFER_POOL_SIZE", "buffer_pool_size"),
    ("BUFFER_SIZE", "buffer_size")]

/-- A variable that is set overrides its key. -/
def applyOverride (var : Text → Option Text) (settings : Settings) (m : Text × Text) : Settings :=
  match var m.1 with
  | some value => settings.set m.2 (.text value)
  | none => settings

/-- `apply_env_overrides`. -/
def applyEnvOverrides (host : Host) (settings : Settings) : Settings :=
  envMappings.foldl (applyOverride host.var) settings

/-- The value of a field. -/
def readField (reader : SettingReader) (settings : Settings) (key : Text) (bits : Nat) :
    Except Text Nat :=
  match settings key with
  | some value => reader.uint bits value
  | none => .error (reader.missing key)

/-- `try_deserialize`, for a `usize` of so many bits. -/
def deserialize (reader : SettingReader) (bits : Nat) (settings : Settings) : Except Text Config := do
  let port ← readField reader settings "port" 16
  let whoisTimeoutSeconds ← readField reader settings "whois_timeout_seconds" 64
  let maxResponseSize ← readField reader settings "max_response_size" bits
  let cacheTtlSeconds ← readField reader settings "cache_ttl_seconds" 64
  let negativeCacheTtlSeconds ← readField reader settings "negative_cache_ttl_seconds" 64
  let cacheMaxEntries ← readField reader settings "cache_max_entries" 64
  let maxReferrals ← readField reader settings "max_referrals" bits
  let discoveryTimeoutSeconds ← readField reader settings "discovery_timeout_seconds" 64
  let concurrentWhoisQueries ← readField reader settings "concurrent_whois_queries" bits
  let bufferPoolSize ← readField reader settings "buffer_pool_size" bits
  let bufferSize ← readField reader settings "buffer_size" bits
  pure {
    port, whoisTimeoutSeconds, maxResponseSize, cacheTtlSeconds, negativeCacheTtlSeconds,
    cacheMaxEntries, maxReferrals, discoveryTimeoutSeconds, concurrentWhoisQueries, bufferPoolSize,
    bufferSize }

/-- `Config::load`. -/
def load (reader : SettingReader) (bits : Nat) (host : Host) : Except Text Config := do
  let settings := applyEnvOverrides host (defaults host)
  let config ← deserialize reader bits settings
  config.validate
  pure config

/-! ## What is loaded -/

/-- The last of the variables of a key that is set. -/
def lastVar (var : Text → Option Text) (ms : List (Text × Text)) (key : Text) : Option Text :=
  (ms.filter (·.2 = key)).reverse.findSome? fun m => var m.1

theorem foldl_applyOverride (var : Text → Option Text) (ms : List (Text × Text)) (settings : Settings)
    (key : Text) : ms.foldl (applyOverride var) settings key =
      ((lastVar var ms key).map Setting.text).or (settings key) := by
  induction ms using List.reverseRecOn with
  | nil => rfl
  | append_singleton ms m ih =>
    rw [List.foldl_append, List.foldl_cons, List.foldl_nil, applyOverride]
    by_cases hkey : m.2 = key
    · have hlast : lastVar var (ms ++ [m]) key = (var m.1).or (lastVar var ms key) := by
        simp only [lastVar, List.filter_append, List.filter_cons, hkey, decide_true, if_true,
          List.filter_nil, List.reverse_append, List.reverse_singleton, List.singleton_append,
          List.findSome?_cons]
        cases var m.1 <;> rfl
      rw [hlast]
      cases hvar : var m.1 with
      | none => rw [Option.none_or]; exact ih
      | some value =>
        subst hkey
        exact Function.update_self _ _ _
    · have hlast : lastVar var (ms ++ [m]) key = lastVar var ms key := by
        simp [lastVar, hkey, List.filter_append]
      rw [hlast, ← ih]
      cases var m.1 with
      | none => rfl
      | some value => exact Function.update_of_ne (Ne.symm hkey) _ _

/-- **The last variable of a key that is set wins.** -/
theorem applyEnvOverrides_apply (host : Host) (settings : Settings) (key : Text) :
    applyEnvOverrides host settings key =
      ((lastVar host.var envMappings key).map Setting.text).or (settings key) :=
  foldl_applyOverride host.var envMappings settings key

/-- The fields of a configuration, with their types. -/
def fields (self : Config) (bits : Nat) : List (Text × Nat × Nat) :=
  [("port", 16, self.port), ("whois_timeout_seconds", 64, self.whoisTimeoutSeconds),
    ("max_response_size", bits, self.maxResponseSize),
    ("cache_ttl_seconds", 64, self.cacheTtlSeconds),
    ("negative_cache_ttl_seconds", 64, self.negativeCacheTtlSeconds),
    ("cache_max_entries", 64, self.cacheMaxEntries), ("max_referrals", bits, self.maxReferrals),
    ("discovery_timeout_seconds", 64, self.discoveryTimeoutSeconds),
    ("concurrent_whois_queries", bits, self.concurrentWhoisQueries),
    ("buffer_pool_size", bits, self.bufferPoolSize), ("buffer_size", bits, self.bufferSize)]

theorem bind_eq_ok {ε α β : Type} {x : Except ε α} {f : α → Except ε β} {b : β} :
    (x >>= f) = .ok b ↔ ∃ a, x = .ok a ∧ f a = .ok b := by
  cases x with
  | error e => exact iff_of_false (by rintro ⟨⟩) (by rintro ⟨_, ⟨⟩, _⟩)
  | ok a => exact ⟨fun h => ⟨a, rfl, h⟩, by rintro ⟨_, ⟨⟩, h⟩; exact h⟩

theorem deserialize_eq_ok_iff {reader : SettingReader} {bits : Nat} {settings : Settings}
    {config : Config} : deserialize reader bits settings = .ok config ↔
      ∀ f ∈ config.fields bits, readField reader settings f.1 f.2.1 = .ok f.2.2 := by
  simp only [deserialize, bind_eq_ok, fields, List.forall_mem_cons]
  constructor
  · rintro ⟨_, h₀, _, h₁, _, h₂, _, h₃, _, h₄, _, h₅, _, h₆, _, h₇, _, h₈, _, h₉, _, h₁₀, ⟨⟩⟩
    exact ⟨h₀, h₁, h₂, h₃, h₄, h₅, h₆, h₇, h₈, h₉, h₁₀, by simp⟩
  · rintro ⟨h₀, h₁, h₂, h₃, h₄, h₅, h₆, h₇, h₈, h₉, h₁₀, -⟩
    exact ⟨_, h₀, _, h₁, _, h₂, _, h₃, _, h₄, _, h₅, _, h₆, _, h₇, _, h₈, _, h₉, _, h₁₀, rfl⟩

/-- The value that is read for a key: the last of its variables that is set, or its default. -/
def effective (host : Host) (key : Text) : Option Setting :=
  ((lastVar host.var envMappings key).map Setting.text).or (defaults host key)

theorem load_eq_ok {reader : SettingReader} {bits : Nat} {host : Host} {config : Config} :
    load reader bits host = .ok config ↔
      deserialize reader bits (applyEnvOverrides host (defaults host)) = .ok config ∧
        config.validate = .ok () := by
  simp only [load, bind_eq_ok]
  constructor
  · rintro ⟨_, hdeserialize, _, hvalidate, ⟨⟩⟩
    exact ⟨hdeserialize, hvalidate⟩
  · rintro ⟨hdeserialize, hvalidate⟩
    exact ⟨_, hdeserialize, _, hvalidate, rfl⟩

/-- **What is loaded**: in every environment, each field is what the last of its variables that is set
is read as, or its default, and no checked field is zero. -/
theorem load_eq_ok_iff (reader : SettingReader) (bits : Nat) (host : Host) (config : Config) :
    load reader bits host = .ok config ↔
      (∀ f ∈ config.fields bits, ∃ value, effective host f.1 = some value ∧
        reader.uint f.2.1 value = .ok f.2.2) ∧ ∀ f ∈ config.checked, 0 < f.2 := by
  have hread : ∀ key n v, readField reader (applyEnvOverrides host (defaults host)) key n = .ok v ↔
      ∃ value, effective host key = some value ∧ reader.uint n value = .ok v := by
    intro key n v
    rw [readField, applyEnvOverrides_apply, ← effective]
    cases effective host key <;> simp
  rw [load_eq_ok, deserialize_eq_ok_iff, validate_eq_ok_iff]
  simp only [hread]

/-! ## Hosts without variables -/

/-- The defaults, as a configuration. -/
def plain (host : Host) : Config :=
  let systemInfo := detectSystemCapabilities host
  { port := getDefaultPort host
    whoisTimeoutSeconds := systemInfo.defaultTimeout
    maxResponseSize := systemInfo.maxResponseSize
    cacheTtlSeconds := systemInfo.cacheTtl
    negativeCacheTtlSeconds := 300
    cacheMaxEntries := systemInfo.cacheMaxEntries
    maxReferrals := systemInfo.maxReferrals
    discoveryTimeoutSeconds := systemInfo.discoveryTimeout
    concurrentWhoisQueries := systemInfo.concurrentWhoisQueries
    bufferPoolSize := systemInfo.bufferPoolSize
    bufferSize := systemInfo.bufferSize }

theorem defaults_fields (host : Host) (bits : Nat) :
    ∀ f ∈ (plain host).fields bits, defaults host f.1 = some (.number f.2.2) := by
  simp only [fields, List.forall_mem_cons]
  refine ⟨rfl, rfl, rfl, rfl, rfl, rfl, rfl, rfl, rfl, rfl, rfl, by simp⟩

theorem getDefaultPort_lt (host : Host) : getDefaultPort host < 2 ^ 16 := by
  have hparse : ∀ s n, parseUnsigned 16 s = some n → n < 2 ^ 16 := by
    intro s n h
    simp only [parseUnsigned] at h
    split_ifs at h
    exact of_decide_eq_true (Option.filter_eq_some_iff.mp h).2
  rw [getDefaultPort]
  cases h : (((host.var "PORT").or (host.var "HTTP_PORT")).or (host.var "SERVER_PORT")).bind
      (parseUnsigned 16) with
  | none => decide
  | some n =>
    obtain ⟨s, -, hs⟩ := Option.bind_eq_some_iff.mp h
    exact hparse s n hs

theorem byMemory_bounds {low high : Nat} {a b c d : Nat} (ha : low ≤ a ∧ a ≤ high)
    (hb : low ≤ b ∧ b ≤ high) (hc : low ≤ c ∧ c ≤ high) (hd : low ≤ d ∧ d ≤ high)
    (availableMemory : Nat) :
    low ≤ byMemory availableMemory a b c d ∧ byMemory availableMemory a b c d ≤ high := by
  simp only [byMemory]
  split_ifs
  · exact ha
  · exact hb
  · exact hc
  · exact hd

/-- The defaults that a host decides, with their bounds. -/
structure Bounded (config : Config) : Prop where
  timeout : 15 ≤ config.whoisTimeoutSeconds ∧ config.whoisTimeoutSeconds ≤ 30
  size : 1024 * 1024 ≤ config.maxResponseSize ∧ config.maxResponseSize ≤ 10 * 1024 * 1024
  ttl : 1800 ≤ config.cacheTtlSeconds ∧ config.cacheTtlSeconds ≤ 3600
  negativeTtl : config.negativeCacheTtlSeconds = 300
  entries : 1000 ≤ config.cacheMaxEntries ∧ config.cacheMaxEntries ≤ 25000
  referrals : 5 ≤ config.maxReferrals ∧ config.maxReferrals ≤ 10
  discovery : 10 ≤ config.discoveryTimeoutSeconds ∧ config.discoveryTimeoutSeconds ≤ 20
  queries : 0 < config.concurrentWhoisQueries ∧ config.concurrentWhoisQueries ≤ 8
  pool : 10 ≤ config.bufferPoolSize ∧ config.bufferPoolSize ≤ 200
  buffer : 4096 ≤ config.bufferSize ∧ config.bufferSize ≤ 32768

theorem bounded_plain {host : Host} (hcores : ∀ n ∈ host.availableParallelism, 0 < n) :
    Bounded (plain host) := by
  have hite : ∀ {low high a b : Nat}, low ≤ a ∧ a ≤ high → low ≤ b ∧ b ≤ high →
      low ≤ (if isProductionEnvironment host then a else b) ∧
        (if isProductionEnvironment host then a else b) ≤ high := by
    intro low high a b ha hb
    split_ifs <;> assumption
  have hpositive : 0 < getCpuCores host := by
    rw [getCpuCores]
    cases h : host.availableParallelism with
    | none => exact Nat.succ_pos 3
    | some n => exact hcores n h
  have hsize : 1024 * 1024 ≤ calculateMaxResponseSize host (getAvailableMemory host) ∧
      calculateMaxResponseSize host (getAvailableMemory host) ≤ 10 * 1024 * 1024 := by
    rw [calculateMaxResponseSize]
    omega
  have hqueries : 0 < min (getCpuCores host) 8 ∧ min (getCpuCores host) 8 ≤ 8 := by omega
  constructor
  · exact hite (by omega) (by omega)
  · exact hsize
  · exact hite (by omega) (by omega)
  · rfl
  · exact byMemory_bounds (by omega) (by omega) (by omega) (by omega) _
  · exact hite (by omega) (by omega)
  · exact hite (by omega) (by omega)
  · exact hqueries
  · exact byMemory_bounds (by omega) (by omega) (by omega) (by omega) _
  · exact byMemory_bounds (by omega) (by omega) (by omega) (by omega) _

theorem InRange.fields_lt {config : Config} {bits : Nat} (h : config.InRange bits) :
    ∀ f ∈ config.fields bits, f.2.2 < 2 ^ f.2.1 := by
  obtain ⟨h₀, h₁, h₂, h₃, h₄, h₅, h₆, h₇, h₈, h₉, h₁₀⟩ := h
  simp only [fields, List.forall_mem_cons]
  exact ⟨h₀, h₁, h₂, h₃, h₄, h₅, h₆, h₇, h₈, h₉, h₁₀, by simp⟩

theorem deserialize_plain {reader : SettingReader} {bits : Nat} {host : Host}
    (hvars : ∀ m ∈ envMappings, host.var m.1 = none)
    (hreader : ∀ n v, v < 2 ^ n → reader.uint n (.number v) = .ok v)
    (hinRange : (plain host).InRange bits) :
    deserialize reader bits (applyEnvOverrides host (defaults host)) = .ok (plain host) := by
  refine deserialize_eq_ok_iff.mpr fun f hf => ?_
  have hnone : lastVar host.var envMappings f.1 = none := by
    rw [lastVar, List.findSome?_eq_none_iff]
    intro m hm
    exact hvars m (List.mem_of_mem_filter (List.mem_reverse.mp hm))
  rw [readField, applyEnvOverrides_apply, hnone, Option.map_none, Option.none_or,
    defaults_fields host bits f hf]
  exact hreader _ _ (hinRange.fields_lt f hf)

theorem Bounded.inRange {config : Config} {bits : Nat} (h : Bounded config) (hbits : 32 ≤ bits)
    (hport : config.port < 2 ^ 16) : config.InRange bits := by
  have hpow : 2 ^ 32 ≤ 2 ^ bits := Nat.pow_le_pow_right (by decide) hbits
  obtain ⟨htimeout, hsize, httl, hnegative, hentries, hreferrals, hdiscovery, hqueries, hpool,
    hbuffer⟩ := h
  constructor <;> omega

theorem Bounded.validate_eq_ok {config : Config} (h : Bounded config) (hport : 0 < config.port) :
    config.validate = .ok () := by
  obtain ⟨htimeout, hsize, -, -, -, -, -, hqueries, hpool, hbuffer⟩ := h
  rw [validate_eq_ok_iff]
  simp only [checked, List.forall_mem_cons]
  refine ⟨hport, ?_, ?_, ?_, ?_, hqueries.1, by simp⟩
  · exact Nat.lt_of_lt_of_le (by decide) htimeout.1
  · exact Nat.lt_of_lt_of_le (by decide) hbuffer.1
  · exact Nat.lt_of_lt_of_le (by decide) hpool.1
  · exact Nat.lt_of_lt_of_le (by decide) hsize.1

theorem Bounded.faultless {config : Config} {bits : Nat} (h : Bounded config) (hbits : 32 ≤ bits)
    (hport : 0 < config.port) : Faultless bits config := by
  have hpow : 2 ^ 32 ≤ 2 ^ bits := Nat.pow_le_pow_right (by decide) hbits
  have hpermits : 16 ≤ maxPermits bits := by
    rw [maxPermits, Nat.shiftRight_eq_div_pow, Nat.le_div_iff_mul_le (by decide)]
    omega
  refine (faultless_iff bits config (h.validate_eq_ok hport)).mpr ⟨?_, ?_⟩
  · exact Nat.lt_of_le_of_lt h.timeout.2 (by decide)
  · have hqueries := h.queries.2
    omega

/-- **Every host has a configuration.** Without variables for settings, on a host with any memory and
any number of cores, in production or not, a configuration is loaded, unless a variable makes the
default port zero; it is within bounds that do not depend on the host, and no service that is built
with it fails in its arithmetic. The product of the memory wraps around as in a release build, where a
debug build panics on an overflow. -/
theorem load_of_plain (reader : SettingReader) (bits : Nat) (hbits : 32 ≤ bits)
    (hreader : ∀ n v, v < 2 ^ n → reader.uint n (.number v) = .ok v) (host : Host)
    (hvars : ∀ m ∈ envMappings, host.var m.1 = none)
    (hcores : ∀ n ∈ host.availableParallelism, 0 < n) :
    if getDefaultPort host = 0 then ∃ msg, load reader bits host = .error msg
    else ∃ config, load reader bits host = .ok config ∧ Bounded config ∧ config.InRange bits ∧
      Faultless bits config := by
  have hbounded : Bounded (plain host) := bounded_plain hcores
  have hinRange : (plain host).InRange bits := hbounded.inRange hbits (getDefaultPort_lt host)
  have hdeserialize := deserialize_plain hvars hreader hinRange
  split_ifs with hport
  · -- the port fails the first check
    refine ⟨"port cannot be 0".toList, ?_⟩
    rw [load, hdeserialize]
    show ((plain host).validate >>= fun _ => pure (plain host)) = _
    rw [validate, checked, List.forM_cons, nonZero_of_eq_zero hport]
    rfl
  · have hpos : 0 < (plain host).port := Nat.pos_of_ne_zero hport
    exact ⟨plain host, load_eq_ok.mpr ⟨hdeserialize, hbounded.validate_eq_ok hpos⟩, hbounded,
      hinRange, hbounded.faultless hbits hpos⟩

/-- A reader that takes numbers only. -/
def numbersOnly : SettingReader where
  uint bits
    | .number n => if n < 2 ^ bits then .ok n else .error "invalid value".toList
    | .text _ => .error "invalid type".toList
  missing key := "missing field ".toList ++ key

/-- A host in production with 6 GiB. -/
def sixGib : Host where
  meminfo := some "MemTotal: 8388608 kB\nMemAvailable: 6291456 kB\n".toList
  availableParallelism := some 16
  var name := if name = "ENVIRONMENT".toList then some "Production".toList else none
  thousandth n := n / 1000

theorem load_of_plain_sixGib : ∃ config, load numbersOnly 64 sixGib = .ok config ∧ Bounded config ∧
    config.InRange 64 ∧ Faultless 64 config := by
  have hvars : ∀ m ∈ envMappings, sixGib.var m.1 = none := by decide
  have hport : getDefaultPort sixGib ≠ 0 := by decide
  have h := load_of_plain numbersOnly 64 (by decide) (fun n v hv => if_pos hv) sixGib hvars
    (by decide)
  rwa [if_neg hport] at h

end Config

end RustWhois

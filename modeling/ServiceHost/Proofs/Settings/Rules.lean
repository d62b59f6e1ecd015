import ServiceHost.Settings.Rules

set_option autoImplicit false

namespace ServiceHost.Settings

def MayName (c : Char) : Prop :=
  ('A' ≤ c ∧ c ≤ 'Z') ∨ ('a' ≤ c ∧ c ≤ 'z') ∨ ('0' ≤ c ∧ c ≤ '9') ∨ c = '-' ∨ c = '_' ∨ c = '.'

def IsName (name : String) : Prop := name ≠ "" ∧ ∀ c ∈ name.toList, MayName c

def IsRoot (root : String) : Prop := root ≠ "" ∧ ¬∃ stem, root = stem ++ "/"

def amounts : List (String × (Settings → Nat)) := [
  ("registry.lease_ttl_ms", (·.registry.leaseTtlMs)),
  ("registry.keepalive_interval_ms", (·.registry.keepaliveIntervalMs)),
  ("registry.cooldown_ms", (·.registry.cooldownMs)),
  ("client.dial_timeout_ms", (·.client.dialTimeoutMs)),
  ("upgrade.timeout_secs", (·.upgrade.timeoutSecs)),
  ("http.request_timeout_secs", (·.http.requestTimeoutSecs)),
  ("http.max_connections", (·.http.maxConnections))]

structure Sound (settings : Settings) : Prop where
  named : IsName settings.service.name
  bindable : ∃ socket, Address.Socket.parse? settings.http.address = some socket
  announced : settings.http.advertised ≠ some ""
  rooted : IsRoot settings.registry.root
  positive : ∀ amount ∈ amounts, amount.2 settings ≠ 0
  renewable : settings.registry.keepaliveIntervalMs < settings.registry.leaseTtlMs

namespace Report

def name (settings : Settings) : Violation where
  field := "service.name"
  message := "invalid service name " ++ Text.quoted settings.service.name ++ ", expected ^[a-zA-Z0-9\\-\\_\\.]+$"

def address (settings : Settings) : Violation where
  field := "http.address"
  message := "invalid listen address " ++ Text.quoted settings.http.address

def advertised : Violation := { field := "http.advertised_address", message := "must not be empty when set" }

def root : Violation := { field := "registry.prefix", message := "must be non-empty without a trailing '/'" }

def zero (field : String) : Violation := { field, message := "must be greater than zero" }

def keepalive : Violation where
  field := "registry.keepalive_interval_ms"
  message := "must be shorter than the lease TTL"

def all (settings : Settings) : List Violation :=
  [name settings, address settings, advertised, root] ++ amounts.map (fun amount => zero amount.1) ++ [keepalive]

end Report

inductive Breach (settings : Settings) : Violation → Prop where
  | name (misnamed : ¬IsName settings.service.name) : Breach settings (Report.name settings)
  | address (unreadable : Address.Socket.parse? settings.http.address = none) : Breach settings (Report.address settings)
  | advertised (blank : settings.http.advertised = some "") : Breach settings Report.advertised
  | root (misplaced : ¬IsRoot settings.registry.root) : Breach settings Report.root
  | zero (amount : String × (Settings → Nat)) (listed : amount ∈ amounts) (none : amount.2 settings = 0) :
      Breach settings (Report.zero amount.1)
  | keepalive (late : settings.registry.leaseTtlMs ≤ settings.registry.keepaliveIntervalMs) :
      Breach settings Report.keepalive

theorem name_char_iff (c : Char) : Name.isNameChar c = true ↔ MayName c := by
  have ranges : c.isAlphanum = ((decide ('A' ≤ c ∧ c ≤ 'Z') || (decide ('a' ≤ c) && decide (c ≤ 'z'))) ||
      (decide ('0' ≤ c) && decide (c ≤ '9'))) := rfl
  simp only [Name.isNameChar, MayName, ranges, Bool.or_eq_true, Bool.and_eq_true, decide_eq_true_eq, or_assoc]

theorem name_iff (name : String) : Name.isValid name = true ↔ IsName name := by
  simp only [Name.isValid, IsName, Bool.and_eq_true, decide_eq_true_eq, List.all_eq_true, name_char_iff]

theorem root_iff (root : String) :
    (root ≠ "" && root.toList.getLast? ≠ some '/') = true ↔ IsRoot root := by
  have ends : root.toList.getLast? = some '/' ↔ ∃ stem, root = stem ++ "/" := by
    rw [List.getLast?_eq_some_iff]
    constructor
    · rintro ⟨chars, spelt⟩
      exact ⟨String.ofList chars, String.toList_inj.mp (by simp [spelt])⟩
    · rintro ⟨stem, rfl⟩
      exact ⟨stem.toList, by simp⟩
  rw [Bool.and_eq_true, decide_eq_true_eq, decide_eq_true_eq, IsRoot, ne_eq (root.toList.getLast?), ends]

-- Those that ask for more than zero stand between the rules of names and addresses and that of the keep-alive.
theorem rules_in_three :
    rules = rules.take 4 ++ amounts.map (fun amount => positive amount.1 amount.2) ++ rules.drop 11 := rfl

theorem violation_iff (settings : Settings) (violation : Violation) :
    violation ∈ violations settings ↔
      ∃ rule ∈ rules, rule.holds settings = false ∧ { field := rule.field, message := rule.message settings } = violation := by
  simp only [violations, List.mem_map, List.mem_filter, Bool.not_eq_true', and_assoc]

theorem broken_breaches (settings : Settings) (rule : Rule) (listed : rule ∈ rules) (broken : rule.holds settings = false) :
    Breach settings { field := rule.field, message := rule.message settings } := by
  rw [rules_in_three, List.mem_append, List.mem_append] at listed
  rcases listed with (front | middle) | last
  · simp only [rules, List.take, List.mem_cons, List.not_mem_nil, or_false] at front
    rcases front with rfl | rfl | rfl | rfl
    · exact .name fun named => Bool.eq_false_iff.mp broken ((name_iff _).mpr named)
    · exact .address (Option.isNone_iff_eq_none.mp (Option.isSome_eq_false_iff.mp broken))
    · exact .advertised (by simpa using broken)
    · exact .root fun rooted => Bool.eq_false_iff.mp broken ((root_iff _).mpr rooted)
  · obtain ⟨amount, listed, rfl⟩ := List.mem_map.mp middle
    exact .zero amount listed (by simpa [positive] using broken)
  · simp only [rules, List.drop, List.mem_cons, List.not_mem_nil, or_false] at last
    subst last
    exact .keepalive (by simpa using broken)

theorem breach_breaks (settings : Settings) (violation : Violation) (breach : Breach settings violation) :
    ∃ rule ∈ rules, rule.holds settings = false ∧ { field := rule.field, message := rule.message settings } = violation := by
  cases breach with
  | name misnamed => exact ⟨_, .head _, Bool.eq_false_iff.mpr fun valid => misnamed ((name_iff _).mp valid), rfl⟩
  | address unreadable => exact ⟨_, .tail _ (.head _), Option.isSome_eq_false_iff.mpr (unreadable ▸ rfl), rfl⟩
  | advertised blank => exact ⟨_, .tail _ (.tail _ (.head _)), by simp [blank], rfl⟩
  | root misplaced =>
      exact ⟨_, .tail _ (.tail _ (.tail _ (.head _))), Bool.eq_false_iff.mpr fun fits => misplaced ((root_iff _).mp fits), rfl⟩
  | zero amount listed none =>
      have among : positive amount.1 amount.2 ∈ rules := by
        rw [rules_in_three]
        exact List.mem_append_left _ (List.mem_append_right _ (List.mem_map_of_mem listed))
      exact ⟨_, among, by simp [positive, none], rfl⟩
  | keepalive late => exact ⟨rules[11], List.getElem_mem _, decide_eq_false (Nat.not_lt.mpr late), rfl⟩

theorem violation_iff_breach (settings : Settings) (violation : Violation) :
    violation ∈ violations settings ↔ Breach settings violation := by
  rw [violation_iff]
  refine ⟨?_, breach_breaks settings violation⟩
  rintro ⟨rule, listed, broken, rfl⟩
  exact broken_breaches settings rule listed broken

theorem breachless_iff_sound (settings : Settings) : (∀ violation, ¬Breach settings violation) ↔ Sound settings := by
  constructor
  · intro breachless
    refine ⟨?_, ?_, ?_, ?_, ?_, ?_⟩
    · exact Classical.byContradiction fun misnamed => breachless _ (.name misnamed)
    · exact Option.ne_none_iff_exists'.mp fun unreadable => breachless _ (.address unreadable)
    · exact fun blank => breachless _ (.advertised blank)
    · exact Classical.byContradiction fun misplaced => breachless _ (.root misplaced)
    · exact fun amount listed none => breachless _ (.zero amount listed none)
    · exact Nat.not_le.mp fun late => breachless _ (.keepalive late)
  · intro sound violation breach
    cases breach with
    | name misnamed => exact misnamed sound.named
    | address unreadable =>
        obtain ⟨socket, read⟩ := sound.bindable
        rw [unreadable] at read
        cases read
    | advertised blank => exact sound.announced blank
    | root misplaced => exact misplaced sound.rooted
    | zero amount listed none => exact sound.positive amount listed none
    | keepalive late => exact Nat.not_le.mpr sound.renewable late

theorem sound_iff (settings : Settings) : violations settings = [] ↔ Sound settings := by
  rw [List.eq_nil_iff_forall_not_mem, ← breachless_iff_sound]
  exact forall_congr' fun violation => not_congr (violation_iff_breach settings violation)

theorem reports_distinct (settings : Settings) : (Report.all settings).Nodup := by
  simp [Report.all, Report.name, Report.address, Report.advertised, Report.root, Report.zero, Report.keepalive, amounts]

theorem violations_in_order (settings : Settings) : (violations settings).Sublist (Report.all settings) :=
  List.filter_sublist.map _

def withHeaderTimeout (settings : Settings) (seconds : Nat) : Settings :=
  { settings with http := { settings.http with readHeaderTimeoutSecs := seconds } }

-- No rule looks at the time for the head of a request.
theorem header_timeout_unruled (settings : Settings) (seconds : Nat) :
    violations (settings.withHeaderTimeout seconds) = violations settings := by
  have alike : ∀ rule ∈ rules, rule.holds (settings.withHeaderTimeout seconds) = rule.holds settings ∧
      rule.message (settings.withHeaderTimeout seconds) = rule.message settings := by
    simp [rules, positive, withHeaderTimeout]
  rw [violations, List.filter_congr fun rule listed => congrArg _ (alike rule listed).1]
  exact List.map_congr_left fun rule broken => congrArg _ (alike rule (List.mem_filter.mp broken).1).2

theorem rules_checked_but_for_header_timeout (settings : Settings) :
    (violations settings = [] ↔ Sound settings) ∧
      (∀ violation, violation ∈ violations settings ↔ Breach settings violation) ∧
      (violations settings).Nodup ∧ (violations settings).Sublist (Report.all settings) ∧
      ∀ seconds, violations (settings.withHeaderTimeout seconds) = violations settings :=
  ⟨sound_iff settings, violation_iff_breach settings, (reports_distinct settings).sublist (violations_in_order settings),
    violations_in_order settings, header_timeout_unruled settings⟩

def hasty : Settings := { service := { name := "calc" }, http := { readHeaderTimeoutSecs := 0 } }

def careless : Settings where
  service := { name := "calc server" }
  registry := { leaseTtlMs := 0 }

theorem rules_checked_but_for_header_timeout_twice :
    Sound hasty ∧ ¬Sound careless ∧ Breach careless (Report.name careless) ∧
      Breach careless (Report.zero "registry.lease_ttl_ms") ∧ Breach careless Report.keepalive ∧
      (violations (careless.withHeaderTimeout 0)).length = 3 := by
  obtain ⟨sound, -, -, -, -⟩ := rules_checked_but_for_header_timeout hasty
  obtain ⟨unsound, breaches, -, -, unruled⟩ := rules_checked_but_for_header_timeout careless
  have reported : violations careless =
      [Report.name careless, Report.zero "registry.lease_ttl_ms", Report.keepalive] := by decide +kernel
  refine ⟨sound.mp (by decide +kernel), fun kept => ?_, (breaches _).mp ?_, (breaches _).mp ?_, (breaches _).mp ?_, ?_⟩
  · exact absurd (reported.symm.trans (unsound.mpr kept)) (List.cons_ne_nil _ _)
  · rw [reported]
    exact List.mem_cons_self
  · rw [reported]
    exact .tail _ List.mem_cons_self
  · rw [reported]
    exact .tail _ (.tail _ List.mem_cons_self)
  · rw [unruled, reported]
    rfl

theorem header_timeout_of_zero_accepted :
    ¬∀ settings : Settings, violations settings = [] ↔ Sound settings ∧ settings.http.readHeaderTimeoutSecs ≠ 0 := by
  intro checked
  have accepted : violations hasty = [] := by decide +kernel
  exact ((checked hasty).mp accepted).2 rfl

end ServiceHost.Settings

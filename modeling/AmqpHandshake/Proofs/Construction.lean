import AmqpHandshake.Proofs.History
import AmqpHandshake.Settings.Basic

/-! A configuration is checked when it is begun, at each proxy that it is given, and once more by
every attempt. However it comes about, the checks in stages come to what one check of the whole
comes to. -/
namespace AmqpHandshake

/-- A proxy is refused exactly if its host is blank or its port is zero. -/
theorem ProxyOptions.validate_fails_iff {proxy : ProxyOptions} :
    (∃ error, proxy.validate = .error error) ↔
      (∀ c ∈ proxy.host.toList, Text.isBlank c = true) ∨ proxy.port = 0 := by
  have blank : Text.allBlank proxy.host = true ↔
      ∀ c ∈ proxy.host.toList, Text.isBlank c = true := List.all_eq_true
  rw [← blank, validate]
  split
  · rename_i blank
    exact ⟨fun _ => .inl blank, fun _ => ⟨_, rfl⟩⟩
  · rename_i named
    split
    · rename_i closed
      exact ⟨fun _ => .inr closed, fun _ => ⟨_, rfl⟩⟩
    · rename_i open_
      constructor
      · rintro ⟨error, failed⟩
        cases failed
      · rintro (blank | closed)
        · exact absurd blank named
        · exact absurd closed open_

namespace ConnectionConfig

/-- A configuration that is begun in one of the two ways and built up by steps that succeed. -/
inductive Built : ConnectionConfig → Prop
  | signature {host user token : String} {protocol : Protocol} {config : ConnectionConfig}
      (begun : sharedAccessSignature host user token protocol = .ok config) : Built config
  | provider {host : String} {source : TokenProvider} {flavour : AuthorizationType}
      {protocol : Protocol} {config : ConnectionConfig}
      (begun : tokenProvider host source flavour protocol = .ok config) : Built config
  | step {config next : ConnectionConfig} (built : Built config) (step : BuildStep)
      (taken : step.apply config = .ok next) : Built next

variable {config next : ConnectionConfig}

theorem validated_eq (config : ConnectionConfig) :
    config.validated = config.validate.map fun _ => config := by
  unfold validated
  cases config.validate <;> rfl

theorem validate_of_validated (passed : config.validated = .ok next) :
    next = config ∧ config.validate = .ok () := by
  rw [validated_eq] at passed
  cases valid : config.validate with
  | error error =>
    rw [valid] at passed
    cases passed
  | ok _ =>
    rw [valid] at passed
    exact ⟨(Except.ok.inj passed).symm, rfl⟩

/-- What is checked of a configuration without its proxy is checked first. -/
theorem validate_eq (config : ConnectionConfig) :
    config.validate = (do
      ({ config with proxy := none } : ConnectionConfig).validate
      config.proxy.elim (.ok ()) ProxyOptions.validate) := by
  simp only [validate]
  split
  · rfl
  · cases config.credentials.validate with
    | error error => rfl
    | ok _ => cases config.proxy <;> rfl

theorem validate_without_proxy (valid : config.validate = .ok ()) :
    ({ config with proxy := none } : ConnectionConfig).validate = .ok () := by
  rw [validate_eq] at valid
  cases bare : ({ config with proxy := none } : ConnectionConfig).validate with
  | error error =>
    rw [bare] at valid
    cases valid
  | ok _ => rfl

/-- A valid configuration takes a proxy exactly if the proxy is valid. -/
theorem withProxy_of_valid (valid : config.validate = .ok ()) (proxy : ProxyOptions) :
    config.withProxy proxy = proxy.validate.map fun _ => { config with proxy := some proxy } := by
  rw [withProxy, validated_eq, validate_eq]
  exact congrArg (fun checked => Except.map _ (checked >>= fun _ => proxy.validate))
    (validate_without_proxy valid)

theorem validate_of_step {step : BuildStep} (valid : config.validate = .ok ())
    (taken : step.apply config = .ok next) : next.validate = .ok () := by
  cases step with
  | proxy options =>
    obtain ⟨rfl, valid⟩ := validate_of_validated taken
    exact valid
  | tlsContext | bundle | serviceLink =>
    -- No check looks at these.
    cases taken
    exact valid

theorem Built.valid (built : Built config) : config.validate = .ok () := by
  induction built with
  | signature begun | provider begun =>
    obtain ⟨rfl, valid⟩ := validate_of_validated begun
    exact valid
  | step _ _ taken valid => exact validate_of_step valid taken

end ConnectionConfig

/-- The configuration that settings stand for, with all fields at once and unchecked. -/
def Settings.assembled (settings : Settings) : ConnectionConfig where
  hostName := settings.hostName
  protocol := settings.protocol
  proxy := settings.proxy
  tls := settings.caBundle.elim .default .bundle
  credentials := .sharedAccessSignature (settings.userName.getD "") (settings.sasToken.getD "")
  serviceLink := settings.serviceLink

/-- The checks in stages find the fault that one check of the whole finds first. -/
theorem Settings.toConnectionConfig_eq (settings : Settings) :
    settings.toConnectionConfig =
      settings.assembled.validate.map fun _ => settings.assembled := by
  obtain ⟨hostName, protocol, userName, sasToken, proxy, caBundle, serviceLink, timeoutSecs⟩ :=
    settings
  let settings : Settings :=
    ⟨hostName, protocol, userName, sasToken, proxy, caBundle, serviceLink, timeoutSecs⟩
  let bare : ConnectionConfig :=
    ⟨hostName, protocol, none, .default,
      .sharedAccessSignature (userName.getD "") (sasToken.getD ""), none⟩
  have begun : ConnectionConfig.sharedAccessSignature hostName (userName.getD "")
      (sasToken.getD "") protocol = bare.validate.map fun _ => bare := bare.validated_eq
  have staged : settings.assembled.validate =
      bare.validate >>= fun _ => proxy.elim (.ok ()) ProxyOptions.validate :=
    settings.assembled.validate_eq
  rw [toConnectionConfig, begun, staged]
  cases valid : bare.validate with
  | error error => rfl
  | ok _ =>
    cases proxy with
    | none => cases caBundle <;> cases serviceLink <;> rfl
    | some proxy =>
      have proxied := ConnectionConfig.withProxy_of_valid valid proxy
      simp only [Except.map, bind, Except.bind] at proxied ⊢
      rw [proxied, Option.elim_some]
      cases proxy.validate with
      | error error => rfl
      | ok _ => cases caBundle <;> cases serviceLink <;> rfl

/-- However a configuration comes about, it is checked as a whole. Settings give the configuration
that they stand for if that is valid, and else the first fault of it. What is built up step by step
is valid and is accepted by every attempt, and it refuses a proxy exactly if the proxy has a blank
host or no port. -/
theorem validation_whatever_construction :
    (∀ settings : Settings, settings.toConnectionConfig =
      settings.assembled.validate.map fun _ => settings.assembled) ∧
    ∀ config : ConnectionConfig, config.Built →
      config.validate = .ok () ∧
      (∀ containerId, Attempt.start config containerId = .ok (.fresh config containerId)) ∧
      ∀ proxy, (∃ error, config.withProxy proxy = .error error) ↔
        (∀ c ∈ proxy.host.toList, Text.isBlank c = true) ∨ proxy.port = 0 := by
  refine ⟨Settings.toConnectionConfig_eq, fun config built => ?_⟩
  have valid := built.valid
  refine ⟨valid, fun containerId => Attempt.start_eq_ok_iff.mpr ⟨valid, rfl⟩, fun proxy => ?_⟩
  rw [ConnectionConfig.withProxy_of_valid valid, ← ProxyOptions.validate_fails_iff]
  cases proxy.validate with
  | error error => exact ⟨fun _ => ⟨error, rfl⟩, fun _ => ⟨error, rfl⟩⟩
  | ok _ => exact ⟨nofun, nofun⟩

/-- A configuration that is given a proxy, a bundle, a link and then another proxy is accepted, and
takes no third proxy whose host is an ideographic space. -/
theorem validation_of_second_proxy :
    let config : ConnectionConfig :=
      { Sample.config with proxy := some (.plain "second.example.net" 2), tls := .bundle "roots.pem" }
    config.Built ∧ Attempt.start config ⟨0⟩ = .ok (.fresh config ⟨0⟩) ∧
      ∃ error, config.withProxy (.plain "\u3000" 3) = .error error := by
  intro config
  have begun : ConnectionConfig.sharedAccessSignature "hub.example.net" "owner" "signature" .amqps =
      .ok { Sample.config with serviceLink := none } := rfl
  have first : ConnectionConfig.Built
      { Sample.config with proxy := some (.plain "first.example.net" 1), serviceLink := none } :=
    (ConnectionConfig.Built.signature begun).step (.proxy (.plain "first.example.net" 1)) rfl
  have dressed := (first.step (.bundle "roots.pem") rfl).step (.serviceLink .feedback) rfl
  have built : config.Built := dressed.step (.proxy (.plain "second.example.net" 2)) rfl
  obtain ⟨_, accepted, refuses⟩ := validation_whatever_construction.2 config built
  exact ⟨built, accepted ⟨0⟩, (refuses _).mpr (.inl (List.all_eq_true.mp rfl))⟩

end AmqpHandshake

import AmqpHandshake.Transport.LayerPlan

/-! The layers that a configuration asks for: what a plan of them holds, and what can stand in the
way of one. -/
namespace AmqpHandshake

theorem bind_ok {result : Except ε α} {next : α → Except ε β}
    (passed : (result >>= next) = .ok value) :
    ∃ middle, result = .ok middle ∧ next middle = .ok value := by
  cases result with
  | error fault => cases passed
  | ok middle => exact ⟨middle, rfl, passed⟩

theorem map_ok {result : Except ε α} {change : α → β}
    (passed : change <$> result = .ok value) :
    ∃ plain, result = .ok plain ∧ change plain = value := by
  cases result with
  | error fault => cases passed
  | ok plain => exact ⟨plain, rfl, Except.ok.inj passed⟩

theorem map_error {result : Except ε α} {change : α → β}
    (failed : change <$> result = .error fault) : result = .error fault := by
  cases result with
  | error other => exact congrArg Except.error (Except.error.inj failed)
  | ok value => cases failed

theorem bind_error {result : Except ε α} {next : α → Except ε β}
    (failed : (result >>= next) = .error fault) :
    result = .error fault ∨ ∃ value, result = .ok value ∧ next value = .error fault := by
  cases result with
  | error other => exact .inl (congrArg Except.error (Except.error.inj failed))
  | ok value => exact .inr ⟨value, rfl, failed⟩

theorem bind_eq_ok_iff {result : Except ε α} {next : α → Except ε β} :
    (result >>= next) = .ok value ↔ ∃ middle, result = .ok middle ∧ next middle = .ok value := by
  refine ⟨bind_ok, ?_⟩
  rintro ⟨middle, rfl, passed⟩
  exact passed

theorem bind_eq_error_iff {result : Except ε α} {next : α → Except ε β} :
    (result >>= next) = .error fault ↔
      result = .error fault ∨ ∃ middle, result = .ok middle ∧ next middle = .error fault := by
  refine ⟨bind_error, ?_⟩
  rintro (rfl | ⟨middle, rfl, failed⟩)
  · rfl
  · exact failed

theorem mapError_eq_ok_iff {result : Except ε α} {change : ε → δ} :
    result.mapError change = .ok value ↔ result = .ok value := by
  cases result with
  | error fault => exact ⟨nofun, nofun⟩
  | ok plain => exact ⟨fun same => by cases same; rfl, fun same => by cases same; rfl⟩

theorem mapError_eq_error_iff {result : Except ε α} {change : ε → δ} :
    result.mapError change = .error fault ↔ ∃ plain, result = .error plain ∧ change plain = fault := by
  cases result with
  | error plain =>
    constructor
    · intro same
      exact ⟨plain, rfl, Except.error.inj same⟩
    · rintro ⟨_, ⟨⟩, rfl⟩
      rfl
  | ok value => exact ⟨nofun, nofun⟩

theorem ok_of_toOption {result : Except ε α} (found : result.toOption = some value) :
    result = .ok value := by
  cases result with
  | error fault => cases found
  | ok plain => exact congrArg Except.ok (Option.some.inj found)

namespace ConnectionConfig

variable {config : ConnectionConfig} {plan : LayerPlan}

/-- A plan is put together from layers that are formed one by one. -/
theorem layers_parts (planned : config.layers = .ok plan) :
    (if config.protocol.isWebSocket then some <$> WebSocketLayer.ofHost config.hostName
      else .ok none) = .ok plan.webSocket ∧
      plan.saslMechanism = anonymousMechanism ∧
      config.proxy.mapM (ProxyLayer.ofHost config.hostName) = .ok plan.proxy := by
  unfold layers at planned
  split at planned
  · rename_i framed
    obtain ⟨webSocket, layered, planned⟩ := bind_ok planned
    obtain ⟨proxy, tunnelled, done⟩ := bind_ok planned
    cases done
    exact ⟨(if_pos framed).trans layered, rfl, tunnelled⟩
  · rename_i unframed
    obtain ⟨webSocket, unlayered, planned⟩ := bind_ok planned
    obtain ⟨proxy, tunnelled, done⟩ := bind_ok planned
    cases done
    exact ⟨(if_neg unframed).trans unlayered, rfl, tunnelled⟩

/-- A plan has a web socket exactly if the protocol asks for one, and a tunnel exactly if a proxy is
configured. -/
theorem layers_ok (planned : config.layers = .ok plan) :
    plan.webSocket.isSome = config.protocol.isWebSocket ∧
      plan.saslMechanism = anonymousMechanism ∧ plan.proxy.isSome = config.proxy.isSome := by
  obtain ⟨layered, mechanism, tunnelled⟩ := layers_parts planned
  refine ⟨?_, mechanism, ?_⟩
  · split at layered
    · rename_i framed
      obtain ⟨layer, _, found⟩ := map_ok layered
      rw [← found, framed, Option.isSome_some]
    · rename_i unframed
      rw [← Except.ok.inj layered, Bool.eq_false_iff.mpr unframed, Option.isSome_none]
  · cases through : config.proxy with
    | none =>
      rw [through] at tunnelled
      rw [← Except.ok.inj tunnelled]
      rfl
    | some options =>
      rw [through] at tunnelled
      obtain ⟨tunnel, _, found⟩ := map_ok tunnelled
      rw [← found, Option.isSome_some, Option.isSome_some]

/-- Through a proxy, a web socket and a tunnel are both formed for the one host. -/
theorem layers_through_proxy (framed : config.protocol.isWebSocket = true)
    (through : config.proxy = some options) (planned : config.layers = .ok plan) :
    ∃ layer tunnel, plan.webSocket = some layer ∧ plan.proxy = some tunnel ∧
      WebSocketLayer.ofHost config.hostName = .ok layer ∧
      ProxyLayer.ofHost config.hostName options = .ok tunnel := by
  obtain ⟨layered, _, tunnelled⟩ := layers_parts planned
  rw [if_pos framed] at layered
  rw [through] at tunnelled
  obtain ⟨layer, formed, found⟩ := map_ok layered
  obtain ⟨tunnel, made, met⟩ := map_ok tunnelled
  exact ⟨layer, tunnel, found.symm, met.symm, formed, made⟩

end ConnectionConfig

theorem WebSocketLayer.ofHost_error {host : String} (failed : ofHost host = .error cause) :
    ∃ reason, cause = .webSocket reason := by
  unfold ofHost at failed
  rcases bind_error failed with fault | ⟨uri, _, done⟩
  · unfold uri at fault
    split at fault
    · cases fault
    · cases fault
      exact ⟨_, rfl⟩
  · cases done

theorem ProxyLayer.ofHost_error {host : String} {proxy : ProxyOptions}
    (failed : ofHost host proxy = .error cause) : ∃ reason, cause = .proxy reason := by
  simp only [ofHost] at failed
  split at failed
  · cases failed
  · cases failed
    exact ⟨_, rfl⟩

private theorem tunnel_error {config : ConnectionConfig}
    {rest : Option ProxyLayer → Except FailureCause LayerPlan}
    (planned : ∀ proxy, ∃ plan, rest proxy = .ok plan)
    (failed : (config.proxy.mapM (ProxyLayer.ofHost config.hostName) >>= rest) = .error cause) :
    ∃ reason, cause = .proxy reason := by
  rcases bind_error failed with tunnelled | ⟨proxy, _, done⟩
  · cases through : config.proxy with
    | none =>
      rw [through] at tunnelled
      cases tunnelled
    | some options =>
      rw [through] at tunnelled
      exact ProxyLayer.ofHost_error (map_error tunnelled)
  · obtain ⟨plan, success⟩ := planned proxy
    rw [success] at done
    cases done

/-- A layer that cannot be planned is a failure of that layer, never one of authentication. -/
theorem ConnectionConfig.layers_error {config : ConnectionConfig}
    (failed : config.layers = .error cause) :
    (∃ reason, cause = .webSocket reason) ∨ ∃ reason, cause = .proxy reason := by
  unfold layers at failed
  split at failed
  · rcases bind_error failed with framed | ⟨webSocket, _, later⟩
    · exact .inl (WebSocketLayer.ofHost_error (map_error framed))
    · exact .inr (tunnel_error (fun proxy => ⟨_, rfl⟩) later)
  · exact .inr (tunnel_error (fun proxy => ⟨_, rfl⟩) failed)

end AmqpHandshake

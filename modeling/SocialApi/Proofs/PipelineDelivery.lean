/-
Module: SocialApi.Proofs.PipelineDelivery
Purpose: What reaches the clients of an item of what is published about it, while connections
  break, clients come and go and lag, and the application shuts down.
Trusted boundary: none
Main exports:
  Unbroken, InTime, ServesClient, Delivering, delivering_step, delivering_run,
  clients_follow_published, clients_miss_nothing
-/
import SocialApi.Proofs.PipelineWorker

namespace SocialApi

open Process

/-! ### The receivers of a channel -/

section Receivers

variable {pipeline next : Pipeline}

theorem receiversOf_subscribed (channels : String → Option Channel) (refs : Nat → Nat)
    (key other : String) :
    SseManager.receiversOf
        { channels := Function.update channels key (some
            { (channels key).getD ⟨0, []⟩ with
              receivers := ((channels key).getD ⟨0, []⟩).receivers + 1 }), refs := refs } other =
      SseManager.receiversOf { channels := channels, refs := refs } other +
        if key = other then 1 else 0 := by
  unfold SseManager.receiversOf
  by_cases same : key = other
  · subst same
    cases found : channels key <;> simp [found]
  · simp [Function.update_of_ne (Ne.symm same), same]

theorem receiversOf_dropped (manager : SseManager) (key other : String) :
    (manager.onChannel key fun channel =>
        { channel with receivers := channel.receivers - 1 }).receiversOf other =
      manager.receiversOf other - if key = other then 1 else 0 := by
  unfold SseManager.receiversOf SseManager.onChannel
  by_cases same : key = other
  · subst same
    cases manager.channels key <;> simp
  · simp [Function.update_of_ne (Ne.symm same), same]

/-- A change of one element that does not change whether it counts. -/
theorem countP_set_same {α : Type} {counts : α → Bool} {list : List α} {index : Nat}
    {old new : α} (at_index : list[index]? = some old) (same : counts new = counts old) :
    (list.set index new).countP counts = list.countP counts := by
  obtain ⟨inside, rfl⟩ := List.getElem?_eq_some_iff.mp at_index
  rw [List.countP_set inside, same]
  split
  · next counted =>
    have positive : 0 < list.countP counts := by
      rw [List.countP_pos_iff]
      exact ⟨_, List.getElem_mem inside, counted⟩
    omega
  · rfl

/-- A receiver is dropped. -/
theorem Counted.drop {index : Nat} {client : SseClient} (counted : Counted pipeline)
    (at_index : pipeline.clients[index]? = some client) (live : client.live) :
    Counted { pipeline with
      manager := pipeline.manager.onChannel client.key fun channel =>
        { channel with receivers := channel.receivers - 1 }
      clients := pipeline.clients.set index { client with live := false } } := by
  obtain ⟨inside, rfl⟩ := List.getElem?_eq_some_iff.mp at_index
  intro key
  rw [receiversOf_dropped, counted key, List.countP_set inside]
  simp [live]

/-- A client subscribes. -/
theorem Counted.subscribe {setting : PipelineSetting} {key : String} {channel : Option Channel}
    (counted : Counted pipeline)
    (clients : next.clients = pipeline.clients ++ [.subscribe setting key channel])
    (receivers : ∀ other, next.manager.receiversOf other =
      pipeline.manager.receiversOf other + if key = other then 1 else 0) :
    Counted next := by
  intro other
  rw [receivers, counted other, clients, List.countP_append]
  simp [List.countP_singleton, SseClient.subscribe]

end Receivers

/-! ### Steps beside the worker -/

section Beside

variable {setting : PipelineSetting} {env : PipelineEnv} {pipeline next : Pipeline}
  {spawned : List PipelineCall} {worker : WorkerPhase} {unbroken : Prop}

/-- A payload is published, unless Redis fails. -/
theorem publish_step {channel payload : String} {answer : Except DomainError Unit}
    (at_worker : WorkerAt setting.sse worker pipeline) (counted : Counted pipeline)
    (handled : Pipeline.handle setting env (.publish channel payload) pipeline =
      some (answer, next, spawned)) :
    FeedStep setting.sse worker worker unbroken pipeline next := by
  obtain ⟨more, published, same⟩ : ∃ more, pipeline.published ++ more = next.published ∧
      next = { pipeline with published := next.published } := by
    simp only [Pipeline.handle] at handled
    split at handled
    · cases handled
      exact ⟨[], by simp, rfl⟩
    · cases handled
      split
      · exact ⟨_, rfl, rfl⟩
      · exact ⟨[], by simp, rfl⟩
  generalize next.published = all at published same
  subst same published
  obtain ⟨bounded, holding, refs⟩ := at_worker
  have grows : pipeline.published <+: pipeline.published ++ more := List.prefix_append _ _
  have onward : pipeline.taken ≤
      Pipeline.taken { pipeline with published := pipeline.published ++ more } := by
    unfold Pipeline.taken
    cases pipeline.connection with
    | none => exact grows.length_le
    | some number => exact le_rfl
  refine ⟨⟨?_, ?_, refs⟩, counted, rfl, ?_⟩
  · unfold Pipeline.taken at bounded ⊢
    cases connected : pipeline.connection with
    | none => exact le_rfl
    | some number =>
        rw [connected] at bounded
        exact bounded.trans grows.length_le
  · intro read held
    obtain ⟨number, taken, connected, there, reads⟩ := holding read held
    refine ⟨number, taken, connected, ?_, reads⟩
    rw [List.getElem?_append_left (List.getElem?_eq_some_iff.mp there).1, there]
  · intro past since phase index client at_index
    refine ⟨client, at_index, .grow (.refl client) onward grows bounded
      (List.Sublist.refl _) ?_⟩
    intro _ connected
    obtain ⟨number, is⟩ := Option.isSome_iff_exists.mp connected
    exact ⟨by simp [Pipeline.taken, is], connected, fun _ => rfl⟩

/-- The token is cancelled. -/
theorem cancel_step {answer : Unit} (at_worker : WorkerAt setting.sse worker pipeline)
    (counted : Counted pipeline)
    (handled : Pipeline.handle setting env .cancel pipeline = some (answer, next, spawned)) :
    FeedStep setting.sse worker worker unbroken pipeline next := by
  cases handled
  obtain ⟨bounded, holding, refs⟩ := at_worker
  refine ⟨⟨bounded, holding, refs⟩, counted, rfl, ?_⟩
  intro past since phase index client at_index
  exact ⟨client, at_index, .aside (.refl client) rfl rfl bounded rfl⟩

/-- The receiver of a client is dropped, once. -/
theorem dropReceiver_step {dropped : Nat} {answer : Unit}
    (at_worker : WorkerAt setting.sse worker pipeline) (counted : Counted pipeline)
    (handled : Pipeline.handle setting env (.dropReceiver dropped) pipeline =
      some (answer, next, spawned)) :
    FeedStep setting.sse worker worker unbroken pipeline next := by
  obtain ⟨bounded, holding, refs⟩ := at_worker
  obtain ⟨leaving, at_dropped, handled⟩ := Option.bind_eq_some_iff.mp handled
  split at handled
  · next live =>
    cases handled
    refine ⟨⟨bounded, holding, refs⟩, counted.drop at_dropped live, List.length_set, ?_⟩
    intro past since phase index client at_index
    by_cases here : dropped = index
    · subst here
      obtain rfl := Option.some.inj (at_dropped.symm.trans at_index)
      refine ⟨_, List.getElem?_set_self (List.getElem?_eq_some_iff.mp at_index).1, ?_⟩
      exact .aside ⟨rfl, rfl, fun gone => absurd gone Bool.false_ne_true⟩ rfl rfl bounded rfl
    · exact ⟨client, by rw [List.getElem?_set_ne here, at_index],
        .aside (.refl client) rfl rfl bounded rfl⟩
  · cases handled
    refine ⟨⟨bounded, holding, refs⟩, counted, rfl, ?_⟩
    intro past since phase index client at_index
    exact ⟨client, at_index, .aside (.refl client) rfl rfl bounded rfl⟩

end Beside

/-! ### Subscriptions and their clients -/

section Delivering

variable {setting : PipelineSetting}

/-- The connection of the worker neither breaks nor is made. -/
def Unbroken (events : List (Event (eventPipeline setting))) : Prop :=
  ∀ event ∈ events, breaks event.op event.res = false

/-- A `recv` of the client that has lagged. -/
def lagsFor (index : Nat) : (op : PipelineOp) → op.Res → Bool
  | .client other op, answer => other == index && lags op answer
  | _, _ => false

/-- The client never lags. -/
def InTime (index : Nat) (events : List (Event (eventPipeline setting))) : Prop :=
  ∀ event ∈ events, lagsFor index event.op event.res = false

/-- A client beside its subscription, the events since, and the phase of its stream. -/
structure ServesClient (setting : PipelineSetting) (phases : List PipelinePhase)
    (worker : WorkerPhase) (pipeline : Pipeline) (index : Nat) (client : SseClient)
    (event : Event (eventPipeline setting)) (after : List (Event (eventPipeline setting)))
    (past since : Nat) (phase : StreamPhase) : Prop where
  subscribed : event.op = .subscribe client.key
  numbered : event.before.clients.length = index
  since_le : since ≤ event.before.taken
  le_since : event.before.taken ≤ since + 1
  owner : phases[event.thread]? = some (.streaming index phase)
  fed : Fed setting.sse past since worker phase pipeline client
  complete : event.before.connection.isSome → Unbroken after →
    Complete setting.sse past since worker pipeline client
  inStep : InTime index after → InStep past phase client.stream

/-- What holds in every run with one worker: its clients are the clients that have subscribed,
each with a stream of its own. -/
structure Delivering (setting : PipelineSetting) (trace : List (Event (eventPipeline setting)))
    (phases : List PipelinePhase) (worker : WorkerPhase) (pipeline : Pipeline) : Prop where
  lead : phases[0]? = some (.worker worker)
  alone : ∀ (i : Nat) (other : WorkerPhase), phases[i]? = some (.worker other) → i = 0
  atWorker : WorkerAt setting.sse worker pipeline
  counted : Counted pipeline
  inside : ∀ (i index : Nat) (phase : StreamPhase), phases[i]? = some (.streaming index phase) →
    index < pipeline.clients.length
  distinct : ∀ (i j index : Nat) (phase other : StreamPhase),
    phases[i]? = some (.streaming index phase) → phases[j]? = some (.streaming index other) → i = j
  serving : ∀ (index : Nat) (client : SseClient), pipeline.clients[index]? = some client →
    ∃ before event after past since phase, trace = before ++ event :: after ∧
      ServesClient setting phases worker pipeline index client event after past since phase

variable {phases later : List PipelinePhase} {worker reached : WorkerPhase}
  {next : Pipeline} {before trace : List (Event (eventPipeline setting))}
  {event : Event (eventPipeline setting)}

/-- A step that is not the client's own. -/
theorem ServesClient.pass {sub : Event (eventPipeline setting)}
    {after : List (Event (eventPipeline setting))} {index past since : Nat} {phase : StreamPhase}
    {client kept : SseClient}
    (serves : ServesClient setting phases worker event.before index client sub after past since
      phase)
    (owner : later[sub.thread]? = some (.streaming index phase))
    (passes : Passes setting.sse past since phase worker reached
      (breaks event.op event.res = false) event.before next client kept) :
    ServesClient setting later reached next index kept sub (after ++ [event]) past since phase where
  subscribed := by rw [passes.key_eq, serves.subscribed]
  numbered := serves.numbered
  since_le := serves.since_le
  le_since := serves.le_since
  owner := owner
  fed := passes.fed serves.fed
  complete := by
    intro connected unbroken
    apply passes.complete (unbroken event (by simp)) serves.fed
    exact serves.complete connected fun old member => unbroken old (by simp [member])
  inStep := by
    intro inTime
    apply passes.inStep
    exact serves.inStep fun old member => inTime old (by simp [member])

/-- The step law of a step that is no client's own. -/
theorem Delivering.feed (delivering : Delivering setting trace phases worker event.before)
    (step : FeedStep setting.sse worker reached (breaks event.op event.res = false)
      event.before next)
    (lead : later[0]? = some (.worker reached))
    (alone : ∀ (i : Nat) (other : WorkerPhase), later[i]? = some (.worker other) → i = 0)
    (streams : ∀ (i index : Nat) (phase : StreamPhase),
      later[i]? = some (.streaming index phase) ↔ phases[i]? = some (.streaming index phase)) :
    Delivering setting (trace ++ [event]) later reached next where
  lead := lead
  alone := alone
  atWorker := step.found
  counted := step.counted
  inside := by
    intro i index phase at_i
    rw [step.length_eq]
    exact delivering.inside i index phase ((streams i index phase).mp at_i)
  distinct := by
    intro i j index phase other at_i at_j
    exact delivering.distinct i j index phase other ((streams i index phase).mp at_i)
      ((streams j index other).mp at_j)
  serving := by
    intro index kept at_kept
    have bound := (List.getElem?_eq_some_iff.mp at_kept).1
    rw [step.length_eq] at bound
    have at_index := List.getElem?_eq_getElem bound
    obtain ⟨before, sub, after, past, since, phase, rfl, serves⟩ :=
      delivering.serving index _ at_index
    obtain ⟨again, at_again, passes⟩ := step.passes past since phase index _ at_index
    obtain rfl := Option.some.inj (at_kept.symm.trans at_again)
    refine ⟨before, sub, after ++ [event], past, since, phase, by simp, ?_⟩
    exact serves.pass ((streams _ _ _).mpr serves.owner) passes

/-- What the worker holds is the last payload taken. -/
theorem WorkerAt.arrived_eq_waiting {pipeline : Pipeline}
    (at_worker : WorkerAt setting.sse worker pipeline) (key : String) :
    ∃ since, since ≤ pipeline.taken ∧ pipeline.taken ≤ since + 1 ∧
      arrived setting.sse key since pipeline = worker.waiting key := by
  cases held : worker.holds with
  | none =>
      refine ⟨pipeline.taken, le_rfl, Nat.le_succ _, ?_⟩
      simp [arrived, WorkerPhase.waiting, held]
  | some read =>
      obtain ⟨number, payload, connected, there, reads⟩ := at_worker.holding read held
      have taken : pipeline.taken = number + 1 := by rw [Pipeline.taken, connected]; rfl
      have bound : number ≤ pipeline.published.length :=
        (List.getElem?_eq_some_iff.mp there).1.le
      refine ⟨number, taken ▸ Nat.le_succ _, taken.le, ?_⟩
      have last : (pipeline.published.take (number + 1)).drop number = [payload] := by
        rw [List.take_add_one, there, List.drop_append_of_le_length (by simp [bound])]
        simp
      rw [arrived, taken, last]
      simp only [WorkerPhase.waiting, held, Option.bind_some]
      cases found : forKey key read <;> simp [SseSetting.about, reads, found]

/-- A client that has just subscribed. -/
theorem servesClient_fresh {key : String} {channel : Option Channel}
    (op_eq : event.op = .subscribe key) (at_worker : WorkerAt setting.sse worker event.before)
    (published : next.published = event.before.published)
    (connection : next.connection = event.before.connection)
    (owner : later[event.thread]? = some (.streaming event.before.clients.length .waiting)) :
    ∃ past since, ServesClient setting later worker next event.before.clients.length
      (.subscribe setting key channel) event [] past since .waiting := by
  obtain ⟨since, since_le, le_since, held⟩ := at_worker.arrived_eq_waiting key
  have taken : next.taken = event.before.taken := by
    simp only [Pipeline.taken, published, connection]
  have arrives : [] ++ worker.waiting key = arrived setting.sse key since next := by
    rw [List.nil_append, ← held, arrived, arrived, taken, published]
  refine ⟨((channel.map Channel.sent).getD []).length, since, op_eq, rfl, since_le, le_since,
    owner, ⟨StreamPhase.noConfusion, keepsUp_start setting.capacity setting.positive _,
      since_le.trans taken.ge, ?_⟩, ?_, ?_⟩
  · rw [show (SseClient.subscribe setting key channel).stream.receiver.sent.drop
      ((channel.map Channel.sent).getD []).length = [] from List.drop_eq_nil_of_le le_rfl]
    exact (show _ = _ from arrives) ▸ List.Sublist.refl _
  · intro connected _
    refine ⟨connection ▸ connected, fun _ => ?_⟩
    rw [show (SseClient.subscribe setting key channel).stream.receiver.sent.drop
      ((channel.map Channel.sent).getD []).length = [] from List.drop_eq_nil_of_le le_rfl]
    exact arrives
  · exact fun _ => ⟨by simp [SseClient.subscribe, ClientStream.subscribe,
      Subscription.subscribe, channelEvents, StreamPhase.pending], id⟩

/-- A client subscribes, and its stream begins. -/
theorem Delivering.enter {key : String} {channel : Option Channel}
    (op_eq : event.op = .subscribe key)
    (delivering : Delivering setting trace phases worker event.before)
    (at_phase : phases[event.thread]? = some (.entering key))
    (published : next.published = event.before.published)
    (connection : next.connection = event.before.connection)
    (clients : next.clients = event.before.clients ++ [.subscribe setting key channel])
    (receivers : ∀ other, next.manager.receiversOf other =
      event.before.manager.receiversOf other + if key = other then 1 else 0)
    (refs : next.manager.refs = event.before.manager.refs) :
    Delivering setting (trace ++ [event])
      (phases.set event.thread (.streaming event.before.clients.length .waiting)) worker next := by
  obtain ⟨lead, alone, at_worker, counted, inside, distinct, serving⟩ := delivering
  have notLead : event.thread ≠ 0 := by
    intro first
    rw [first, lead] at at_phase
    cases at_phase
  have elsewhere : ∀ {i index : Nat} {phase : StreamPhase},
      phases[i]? = some (.streaming index phase) → event.thread ≠ i := by
    rintro i index phase at_i rfl
    rw [at_phase] at at_i
    cases at_i
  have taken : next.taken = event.before.taken := by
    simp only [Pipeline.taken, published, connection]
  refine ⟨?_, ?_, ⟨?_, ?_, fun shard => by rw [refs, at_worker.refs shard]⟩, ?_, ?_, ?_, ?_⟩
  · rw [List.getElem?_set_ne notLead, lead]
  · intro i other at_i
    rcases phase_of_set at_i with ⟨_, absurd⟩ | ⟨_, at_i⟩
    · cases absurd
    · exact alone i other at_i
  · rw [taken, published]
    exact at_worker.bounded
  · rw [published, connection]
    exact at_worker.holding
  · exact counted.subscribe clients receivers
  · intro i index phase at_i
    rw [clients, List.length_append]
    rcases phase_of_set at_i with ⟨_, same⟩ | ⟨_, at_i⟩
    · cases same
      exact Nat.lt_succ_self _
    · exact Nat.lt_succ_of_lt (inside i index phase at_i)
  · intro i j index phase other at_i at_j
    rcases phase_of_set at_i with ⟨rfl, same⟩ | ⟨_, at_i⟩
    · cases same
      rcases phase_of_set at_j with ⟨rfl, _⟩ | ⟨_, at_j⟩
      · rfl
      · exact absurd (inside j _ other at_j) (lt_irrefl _)
    · rcases phase_of_set at_j with ⟨rfl, same⟩ | ⟨_, at_j⟩
      · cases same
        exact absurd (inside i _ phase at_i) (lt_irrefl _)
      · exact distinct i j index phase other at_i at_j
  · intro index client at_index
    rw [clients] at at_index
    rcases get_of_concat at_index with at_index | ⟨rfl, rfl⟩
    · obtain ⟨before, sub, after, past, since, phase, rfl, serves⟩ := serving index client at_index
      refine ⟨before, sub, after ++ [event], past, since, phase, by simp, ?_⟩
      refine serves.pass ?_ (.aside (.refl client) published connection at_worker.bounded rfl)
      rw [List.getElem?_set_ne (elsewhere serves.owner), serves.owner]
    · obtain ⟨past, since, serves⟩ := servesClient_fresh op_eq at_worker published connection
        (List.getElem?_set_self (List.getElem?_eq_some_iff.mp at_phase).1)
      exact ⟨trace, event, [], past, since, .waiting, rfl, serves⟩

/-- A client before and after a step of its own. -/
theorem ServesClient.own {sub : Event (eventPipeline setting)} {thread index past since : Nat}
    {after : List (Event (eventPipeline setting))} {phase : StreamPhase} {client : SseClient}
    {call : PipelineCall} {env : PipelineEnv} {op : StreamOp} {answer : op.Res}
    {pipeline : Pipeline} {stream : ClientStream} {spawned : List StreamCall}
    (serves : ServesClient setting phases worker pipeline index client sub after past since phase)
    (permitted : phase.Permitted op)
    (handled : ClientStream.handle env.stream op client.stream = some (answer, stream, spawned))
    (published : next.published = pipeline.published)
    (connection : next.connection = pipeline.connection)
    (owner : later[sub.thread]? = some (.streaming index (phase.advance op answer))) :
    ServesClient setting later worker next index { client with stream := stream } sub
      (after ++ [⟨thread, call, env, .client index op, answer, pipeline⟩]) past since
      (phase.advance op answer) := by
  obtain ⟨subscribed, numbered, since_le, le_since, _, fed, complete, inStep⟩ := serves
  have sent := ClientStream.handle_sent fed.looping permitted handled
  have taken : next.taken = pipeline.taken := by
    simp only [Pipeline.taken, published, connection]
  have arrives : arrived setting.sse client.key since next =
      arrived setting.sse client.key since pipeline := by
    rw [arrived, arrived, taken, published]
  refine ⟨subscribed, numbered, since_le, le_since, owner, ⟨?_, ?_, ?_, ?_⟩, ?_, ?_⟩
  · exact StreamPhase.advance_ne_listening fed.looping op answer
  · exact keepsUp_step fed.looping permitted handled fed.follows
  · exact fed.since_le.trans taken.ge
  · rw [sent, arrives]
    exact fed.ordered
  · intro connected unbroken
    have complete := complete connected fun old member => unbroken old (by simp [member])
    refine ⟨connection ▸ complete.connected, fun live => ?_⟩
    rw [sent, arrives]
    exact complete.all live
  · intro inTime
    have inStep := inStep fun old member => inTime old (by simp [member])
    refine inStep.step fed.looping permitted handled fed.follows.first_le ?_
    have step := inTime ⟨thread, call, env, .client index op, answer, pipeline⟩ (by simp)
    simpa [lagsFor] using step

/-- The stream of a client takes a step. -/
theorem Delivering.stream {thread index : Nat} {phase : StreamPhase} {client : SseClient}
    {call : PipelineCall} {env : PipelineEnv} {op : StreamOp} {answer : op.Res}
    {pipeline : Pipeline} {stream : ClientStream} {spawned : List StreamCall}
    (delivering : Delivering setting trace phases worker pipeline)
    (at_phase : phases[thread]? = some (.streaming index phase))
    (at_index : pipeline.clients[index]? = some client) (permitted : phase.Permitted op)
    (handled : ClientStream.handle env.stream op client.stream = some (answer, stream, spawned)) :
    Delivering setting (trace ++ [⟨thread, call, env, .client index op, answer, pipeline⟩])
      (phases.set thread (.streaming index (phase.advance op answer))) worker
      { pipeline with
        clients := pipeline.clients.set index { client with stream := stream } } := by
  obtain ⟨lead, alone, at_worker, counted, inside, distinct, serving⟩ := delivering
  have notLead : thread ≠ 0 := by
    intro first
    rw [first, lead] at at_phase
    cases at_phase
  refine ⟨?_, ?_, ⟨at_worker.bounded, at_worker.holding, at_worker.refs⟩, ?_, ?_, ?_, ?_⟩
  · rw [List.getElem?_set_ne notLead, lead]
  · intro i other at_i
    rcases phase_of_set at_i with ⟨_, absurd⟩ | ⟨_, at_i⟩
    · cases absurd
    · exact alone i other at_i
  · intro key
    apply (counted key).trans
    symm
    apply countP_set_same at_index
    rfl
  · intro i other phase at_i
    rw [List.length_set]
    rcases phase_of_set at_i with ⟨rfl, same⟩ | ⟨_, at_i⟩
    · cases same
      exact inside thread index _ at_phase
    · exact inside i other phase at_i
  · intro i j other phase another at_i at_j
    rcases phase_of_set at_i with ⟨rfl, same⟩ | ⟨_, at_i⟩
    · cases same
      rcases phase_of_set at_j with ⟨rfl, _⟩ | ⟨_, at_j⟩
      · rfl
      · exact distinct _ j _ _ another at_phase at_j
    · rcases phase_of_set at_j with ⟨rfl, same⟩ | ⟨_, at_j⟩
      · cases same
        exact distinct i _ _ phase _ at_i at_phase
      · exact distinct i j other phase another at_i at_j
  · intro other kept at_other
    rcases phase_of_set at_other with ⟨rfl, rfl⟩ | ⟨ne, at_other⟩
    · obtain ⟨before, sub, after, past, since, found, rfl, serves⟩ := serving index client at_index
      obtain rfl := distinct _ _ _ _ _ serves.owner at_phase
      obtain ⟨rfl⟩ : phase = found := by
        have same := serves.owner.symm.trans at_phase
        cases same
        rfl
      refine ⟨before, sub, after ++ [⟨sub.thread, call, env, .client index op, answer, pipeline⟩],
        past, since, phase.advance op answer, by simp, ?_⟩
      have owner := List.getElem?_set_self (List.getElem?_eq_some_iff.mp at_phase).1
        (a := PipelinePhase.streaming index (phase.advance op answer))
      exact serves.own permitted handled rfl rfl owner
    · obtain ⟨before, sub, after, past, since, found, rfl, serves⟩ := serving other kept at_other
      refine ⟨before, sub, after ++ [⟨thread, call, env, .client index op, answer, pipeline⟩],
        past, since, found, by simp, serves.pass ?_
          (.aside (.refl kept) rfl rfl at_worker.bounded rfl)⟩
      rw [List.getElem?_set_ne, serves.owner]
      rintro rfl
      cases serves.owner.symm.trans at_phase
      exact ne rfl

/-- A step that changes no phase and is no client's own. -/
theorem Delivering.aside {phase : PipelinePhase}
    (delivering : Delivering setting trace phases worker event.before)
    (at_phase : phases[event.thread]? = some phase)
    (step : FeedStep setting.sse worker worker (breaks event.op event.res = false)
      event.before next) :
    Delivering setting (trace ++ [event]) (phases.set event.thread phase) worker next := by
  obtain ⟨inside, rfl⟩ := List.getElem?_eq_some_iff.mp at_phase
  rw [List.set_getElem_self inside]
  exact delivering.feed step delivering.lead delivering.alone fun _ _ _ => Iff.rfl

/-- The worker takes a step. -/
theorem Delivering.work (delivering : Delivering setting trace phases worker event.before)
    (own : event.thread = 0)
    (step : FeedStep setting.sse worker reached (breaks event.op event.res = false)
      event.before next) :
    Delivering setting (trace ++ [event]) (phases.set event.thread (.worker reached)) reached
      next := by
  have bound := (List.getElem?_eq_some_iff.mp delivering.lead).1
  rw [own]
  refine delivering.feed step (List.getElem?_set_self bound) ?_ ?_
  · intro i other at_i
    rcases phase_of_set at_i with ⟨rfl, _⟩ | ⟨_, at_i⟩
    · rfl
    · exact delivering.alone i other at_i
  · intro i index phase
    constructor
    · intro at_i
      rcases phase_of_set at_i with ⟨_, absurd⟩ | ⟨_, at_i⟩
      · cases absurd
      · exact at_i
    · intro at_i
      rwa [List.getElem?_set_ne]
      rintro rfl
      cases delivering.lead.symm.trans at_i

/-- The step law. -/
theorem delivering_step {phase : PipelinePhase} {spawned : List PipelineCall}
    (delivering : Delivering setting trace phases worker event.before)
    (at_phase : phases[event.thread]? = some phase) (permitted : phase.Permitted event.op)
    (handled : Pipeline.handle setting event.env event.op event.before =
      some (event.res, next, spawned)) :
    ∃ reached, Delivering setting (trace ++ [event])
      (phases.set event.thread (phase.advance setting.sse event.op event.res)) reached next := by
  obtain ⟨thread, call, env, op, answer, pipeline⟩ := event
  have at_worker := delivering.atWorker
  have counted := delivering.counted
  cases phase with
  | worker found =>
      have own := delivering.alone _ _ at_phase
      rw [own, delivering.lead] at at_phase
      cases at_phase
      exact ⟨_, delivering.work own (worker_step at_worker counted permitted handled)⟩
  | entering key =>
      obtain rfl := permitted
      dsimp only [Pipeline.handle] at handled
      obtain ⟨⟨given, manager, started⟩, served, same⟩ := Option.map_eq_some_iff.mp handled
      cases same
      simp only [SseManager.handle] at served
      split at served
      · cases served
      · cases served
        refine ⟨worker, delivering.enter rfl at_phase rfl rfl rfl ?_ rfl⟩
        exact receiversOf_subscribed _ _ key
  | streaming index phase =>
      rcases permitted with ⟨streamOp, rfl, permitted⟩ | rfl
      · obtain ⟨client, at_index, handled⟩ := Option.bind_eq_some_iff.mp handled
        split at handled
        · obtain ⟨⟨given, stream, started⟩, served, same⟩ := Option.bind_eq_some_iff.mp handled
          cases same
          exact ⟨worker, delivering.stream at_phase at_index permitted served⟩
        · cases handled
      · exact ⟨worker, delivering.aside at_phase (dropReceiver_step at_worker counted handled)⟩
  | outside =>
      rcases permitted with ⟨channel, payload, rfl⟩ | rfl | ⟨index, rfl⟩
      · exact ⟨worker, delivering.aside at_phase (publish_step at_worker counted handled)⟩
      · exact ⟨worker, delivering.aside at_phase (cancel_step at_worker counted handled)⟩
      · exact ⟨worker, delivering.aside at_phase (dropReceiver_step at_worker counted handled)⟩

end Delivering

/-! ### Runs -/

/-- A call that comes from outside the worker and the streams. -/
def PipelineCall.FromOutside : PipelineCall → Prop
  | .runCacheEventListener | .processStream | .streaming .. => False
  | _ => True

theorem Pipeline.handle_spawned {setting : PipelineSetting} {env : PipelineEnv} {op : PipelineOp}
    {pipeline : Pipeline} {answer : op.Res} {next : Pipeline} {spawned : List PipelineCall}
    (handled : Pipeline.handle setting env op pipeline = some (answer, next, spawned)) :
    spawned = [] := by
  cases op with
  | publish channel payload =>
      simp only [Pipeline.handle] at handled
      split at handled <;> cases handled <;> rfl
  | getAsyncPubsubStream =>
      simp only [Pipeline.handle] at handled
      split at handled <;> cases handled <;> rfl
  | streamNext =>
      simp only [Pipeline.handle] at handled
      split at handled
      · split at handled <;> cases handled
        rfl
      split at handled
      · cases handled
        rfl
      split at handled
      · cases handled
      · obtain ⟨_, _, same⟩ := Option.map_eq_some_iff.mp handled
        cases same
        rfl
  | sleepOrCancelled =>
      simp only [Pipeline.handle] at handled
      split at handled
      · split at handled <;> cases handled
        rfl
      · cases handled
        rfl
  | channels sseOp => exact (Pipeline.handle_channels handled).choose_spec.choose_spec.2.2
  | subscribe key =>
      obtain ⟨_, _, same⟩ := Option.map_eq_some_iff.mp handled
      cases same
      rfl
  | client index streamOp =>
      obtain ⟨_, _, handled⟩ := Option.bind_eq_some_iff.mp handled
      split at handled
      · obtain ⟨_, _, same⟩ := Option.bind_eq_some_iff.mp handled
        cases same
        rfl
      · cases handled
  | dropReceiver index =>
      obtain ⟨_, _, handled⟩ := Option.bind_eq_some_iff.mp handled
      split at handled
      · obtain ⟨_, _, same⟩ := Option.bind_eq_some_iff.mp handled
        cases same
        rfl
      · cases handled
        rfl
  | _ =>
      cases handled
      rfl

section Runs

variable {setting : PipelineSetting} {others : List PipelineCall}
  {trace : List (Event (eventPipeline setting))} {last : Pool (eventPipeline setting)}

/-- What holds at the start, with one worker. -/
theorem delivering_start (outside : ∀ call ∈ others, call.FromOutside) :
    Delivering setting [] ((.runCacheEventListener :: others).map PipelinePhase.start) .resting
      .start := by
  have shape : ∀ (i : Nat) (phase : PipelinePhase),
      (others.map PipelinePhase.start)[i]? = some phase →
      (∃ key, phase = .entering key) ∨ phase = .outside := by
    intro i phase at_i
    rw [List.getElem?_map] at at_i
    obtain ⟨call, at_call, rfl⟩ := Option.map_eq_some_iff.mp at_i
    have from_outside := outside call (List.mem_of_getElem? at_call)
    cases call with
    | runCacheEventListener => exact from_outside.elim
    | processStream => exact from_outside.elim
    | streaming index call => exact from_outside.elim
    | sseStream contentType contentId => exact .inl ⟨_, rfl⟩
    | _ => exact .inr rfl
  have noStream : ∀ (i index : Nat) (phase : StreamPhase),
      ((PipelineCall.runCacheEventListener :: others).map PipelinePhase.start)[i]? ≠
        some (.streaming index phase) := by
    rintro (_ | i) index phase at_i
    · cases at_i
    · rcases shape i _ at_i with ⟨_, absurd⟩ | absurd <;> cases absurd
  refine ⟨rfl, ?_, ⟨le_rfl, WorkerPhase.holds_nothing rfl, fun _ => rfl⟩, fun _ => rfl, ?_, ?_,
    ?_⟩
  · rintro (_ | i) other at_i
    · rfl
    · rcases shape i _ at_i with ⟨_, absurd⟩ | absurd <;> cases absurd
  · intro i index phase at_i
    exact absurd at_i (noStream i index phase)
  · intro i j index phase other at_i
    exact absurd at_i (noStream i index phase)
  · intro index client at_index
    cases at_index

theorem among_of_outside (outside : ∀ call ∈ others, call.FromOutside) :
    ∀ call ∈ .runCacheEventListener :: others, PipelinePhase.Among call := by
  intro call member
  rcases List.mem_cons.mp member with rfl | member
  · trivial
  · have from_outside := outside call member
    cases call with
    | streaming index call => exact from_outside.elim
    | _ => trivial

/-- The run law. -/
theorem delivering_run (outside : ∀ call ∈ others, call.FromOutside)
    (run : Run (M := eventPipeline setting)
      (Pool.start .start (.runCacheEventListener :: others)) trace last) :
    ∃ phases worker,
      Phased (M := eventPipeline setting) (PipelinePhase.advance setting.sse)
        PipelinePhase.Permitted (fun _ _ _ => True) PipelinePhase.Final phases last ∧
      Delivering setting trace phases worker last.state := by
  obtain ⟨phases, phased, _, worker, delivering⟩ := Run.phases
    (fun trace phases pipeline => ∃ worker, Delivering setting trace phases worker pipeline)
    (pipeline_obeys setting) pipeline_tails (among_of_outside outside) run
    ⟨.resting, delivering_start outside⟩
    (by
      intro before event after phases phase next spawned split known led at_phase permitted
        handled kept
      obtain ⟨worker, delivering⟩ := kept
      exact ⟨Pipeline.handle_spawned handled, trivial,
        delivering_step delivering at_phase permitted handled⟩)
  exact ⟨phases, worker, phased, delivering⟩

/-- What a client has been sent is of what it is fed. -/
theorem Fed.sent {past since : Nat} {worker : WorkerPhase} {phase : StreamPhase}
    {pipeline : Pipeline} {client : SseClient}
    (fed : Fed setting.sse past since worker phase pipeline client) :
    (channelEvents client.stream.frames).Sublist
      ((pipeline.published.drop since).filterMap (setting.sse.about client.key)) := by
  have shown : (channelEvents client.stream.frames).Sublist
      (client.stream.receiver.sent.drop past) :=
    ((List.sublist_append_left _ _).trans fed.follows.ordered).trans
      ((List.take_sublist _ _).drop past)
  have arrives : (arrived setting.sse client.key since pipeline).Sublist
      ((pipeline.published.drop since).filterMap (setting.sse.about client.key)) :=
    ((List.take_sublist _ _).drop since).filterMap _
  exact (shown.trans ((List.sublist_append_left _ _).trans fed.ordered)).trans arrives

/-- In every run with one worker, whatever breaks and whoever comes, goes or lags: what a client
has been sent of its channel is of what has been published about its item since the payload
taken last when it subscribed, each event at most once and in the order of publication. -/
theorem clients_follow_published (setting : PipelineSetting) (others : List PipelineCall)
    (outside : ∀ call ∈ others, call.FromOutside) (trace : List (Event (eventPipeline setting)))
    (last : Pool (eventPipeline setting))
    (run : Run (M := eventPipeline setting)
      (Pool.start .start (.runCacheEventListener :: others)) trace last)
    (index : Nat) (client : SseClient) (at_index : last.state.clients[index]? = some client) :
    ∃ before event after, trace = before ++ event :: after ∧
      event.op = .subscribe client.key ∧ event.before.clients.length = index ∧
      (channelEvents client.stream.frames).Sublist
        ((last.state.published.drop (event.before.taken - 1)).filterMap
          (setting.sse.about client.key)) := by
  obtain ⟨phases, worker, _, delivering⟩ := delivering_run outside run
  obtain ⟨before, event, after, past, since, phase, split, serves⟩ :=
    delivering.serving index client at_index
  refine ⟨before, event, after, split, serves.subscribed, serves.numbered, ?_⟩
  apply serves.fed.sent.trans
  apply List.Sublist.filterMap
  apply List.drop_sublist_drop_left
  exact Nat.sub_le_iff_le_add.mpr serves.le_since

/-- Payloads are read and written as JSON, and there is one shard. -/
def pipelineOfPost : PipelineSetting where
  sse := oneShard
  eventText := fun event => event.plainJson unaryInstant
  capacity := 128
  positive := by decide

/-- A thread takes its next steps, and nothing fails. -/
def pipelineTurns (thread steps : Nat) : List (Nat × PipelineEnv) :=
  List.replicate steps (thread, .calm .rxRecv)

/-- The worker, a client of the post, and a like of the post. -/
def watchedPost : List PipelineCall :=
  [.runCacheEventListener, .sseStream ⟨"post"⟩ ⟨9⟩, .publishLikeEvent likeOfPost]

/-- The worker connects, the client subscribes, the post is liked, the worker passes the like on,
and the client sends it. -/
def likeTurns : List (Nat × PipelineEnv) :=
  pipelineTurns 0 3 ++ pipelineTurns 1 2 ++ pipelineTurns 2 1 ++ pipelineTurns 0 5 ++
    pipelineTurns 1 3

/-- What the first client has been sent of its channel. -/
def firstClientSees (last : Pool (eventPipeline pipelineOfPost)) : Option (List SseLikeEvent) :=
  last.state.clients[0]?.map fun client => channelEvents client.stream.frames

theorem watchedPost_outside : ∀ call ∈ watchedPost.tail, call.FromOutside := by
  intro call member
  simp only [watchedPost, List.tail_cons, List.mem_cons, List.not_mem_nil, or_false] at member
  rcases member with rfl | rfl <;> trivial

/-- The worker connects, the client subscribes, the post is liked, and the client is sent the
like. -/
theorem clients_follow_published_like :
    ∃ trace last client, Run (M := eventPipeline pipelineOfPost)
        (Pool.start .start watchedPost) trace last ∧
      last.state.clients[0]? = some client ∧
      channelEvents client.stream.frames = [likeOfPost] ∧
      ∃ before event after, trace = before ++ event :: after ∧
        event.op = .subscribe client.key ∧ event.before.clients.length = 0 ∧
        (channelEvents client.stream.frames).Sublist
          ((last.state.published.drop (event.before.taken - 1)).filterMap
            (pipelineOfPost.sse.about client.key)) := by
  obtain ⟨trace, last, run, passed⟩ := Run.exists_of_exec (M := eventPipeline pipelineOfPost)
    likeTurns (Pool.start .start watchedPost)
    (fun _ last => firstClientSees last == some [likeOfPost])
    (by decide +kernel)
  obtain ⟨client, at_zero, sees⟩ := Option.map_eq_some_iff.mp (eq_of_beq passed)
  exact ⟨trace, last, client, run, at_zero, sees, clients_follow_published pipelineOfPost
    watchedPost.tail watchedPost_outside trace last run 0 client at_zero⟩

/-- The worker waits for a message, and has taken all that is published. -/
def CaughtUp (last : Pool (eventPipeline setting)) : Prop :=
  (∃ thread, last.threads[0]? = some thread ∧ thread.nextOp = some .streamNext) ∧
    last.state.connection = some last.state.published.length

/-- The stream of the client waits at its `select!`. -/
def Attending (last : Pool (eventPipeline setting)) (index : Nat) : Prop :=
  ∃ (i : Nat) (thread : Thread (eventPipeline setting)), last.threads[i]? = some thread ∧
    thread.nextOp = some (.client index .select)

/-- A worker that waits for a message is between two messages. -/
theorem worker_resting {phases : List PipelinePhase} {worker : WorkerPhase}
    {thread : Thread (eventPipeline setting)}
    (phased : Phased (M := eventPipeline setting) (PipelinePhase.advance setting.sse)
      PipelinePhase.Permitted (fun _ _ _ => True) PipelinePhase.Final phases last)
    (lead : phases[0]? = some (.worker worker)) (at_zero : last.threads[0]? = some thread)
    (waits : thread.nextOp = some .streamNext) :
    worker = .resting := by
  obtain ⟨phase, at_phase, permitted⟩ := phased.permits at_zero waits
  obtain rfl := Option.some.inj (lead.symm.trans at_phase)
  cases worker with
  | resting => rfl
  | _ => cases permitted

/-- A stream that waits at its `select!` is in the phase to do so. -/
theorem stream_waiting {phases : List PipelinePhase} {i index : Nat}
    {thread : Thread (eventPipeline setting)}
    (phased : Phased (M := eventPipeline setting) (PipelinePhase.advance setting.sse)
      PipelinePhase.Permitted (fun _ _ _ => True) PipelinePhase.Final phases last)
    (at_i : last.threads[i]? = some thread)
    (waits : thread.nextOp = some (.client index .select)) :
    phases[i]? = some (.streaming index .waiting) := by
  obtain ⟨found, at_found, permitted⟩ := phased.permits at_i waits
  obtain ⟨phase, rfl, selects⟩ := PipelinePhase.permitted_client permitted
  obtain rfl := StreamPhase.permitted_select selects
  exact at_found

/-- In every run with one worker: a client that subscribed while the worker was connected has,
as long as the connection has not broken since and the client has not lagged, been sent the
events published about its item with none left out, and all of them once the worker and the
client wait. -/
theorem clients_miss_nothing (setting : PipelineSetting) (others : List PipelineCall)
    (outside : ∀ call ∈ others, call.FromOutside) (trace : List (Event (eventPipeline setting)))
    (last : Pool (eventPipeline setting))
    (run : Run (M := eventPipeline setting)
      (Pool.start .start (.runCacheEventListener :: others)) trace last)
    (index : Nat) (client : SseClient) (at_index : last.state.clients[index]? = some client)
    (live : client.live) :
    ∃ before event after since, trace = before ++ event :: after ∧
      event.op = .subscribe client.key ∧ event.before.clients.length = index ∧
      since ≤ event.before.taken ∧ event.before.taken ≤ since + 1 ∧
      (event.before.connection.isSome → Unbroken after → InTime index after →
        channelEvents client.stream.frames <+:
            (last.state.published.drop since).filterMap (setting.sse.about client.key) ∧
          (CaughtUp last → Attending last index →
            client.stream.receiver.Drained →
              channelEvents client.stream.frames =
                (last.state.published.drop since).filterMap (setting.sse.about client.key))) := by
  obtain ⟨phases, worker, phased, delivering⟩ := delivering_run outside run
  obtain ⟨before, event, after, past, since, phase, split, serves⟩ :=
    delivering.serving index client at_index
  refine ⟨before, event, after, since, split, serves.subscribed, serves.numbered,
    serves.since_le, serves.le_since, ?_⟩
  intro connected unbroken inTime
  have passed := (serves.inStep inTime).passed
  have all := (serves.complete connected unbroken).all live
  constructor
  · have shown : channelEvents client.stream.frames <+: client.stream.receiver.sent.drop past := by
      apply (List.prefix_append _ _).trans
      rw [passed]
      exact (List.take_prefix _ _).drop past
    have arrives : arrived setting.sse client.key since last.state <+:
        (last.state.published.drop since).filterMap (setting.sse.about client.key) :=
      ((List.take_prefix _ _).drop since).filterMap _
    rw [← all] at arrives
    exact (shown.trans (List.prefix_append _ _)).trans arrives
  · rintro ⟨⟨_, at_zero, rests⟩, everything⟩ ⟨_, _, at_thread, attends⟩ drained
    obtain rfl := worker_resting phased delivering.lead at_zero rests
    have at_thread := stream_waiting phased at_thread attends
    obtain rfl := delivering.distinct _ _ _ _ _ at_thread serves.owner
    cases at_thread.symm.trans serves.owner
    have arrives : arrived setting.sse client.key since last.state =
        (last.state.published.drop since).filterMap (setting.sse.about client.key) := by
      rw [arrived, Pipeline.taken, everything, Option.getD_some, List.take_length]
    have sentAll : client.stream.receiver.sent.take client.stream.receiver.next =
        client.stream.receiver.sent := List.take_of_length_le (Nat.le_of_eq drained.symm)
    have nothingPending : StreamPhase.waiting.pending = [] := rfl
    have nothingHeld : WorkerPhase.resting.waiting client.key = [] := rfl
    rw [nothingPending, List.append_nil, sentAll] at passed
    rw [nothingHeld, List.append_nil] at all
    rw [passed, all, arrives]

end Runs

section Checks

variable {setting : PipelineSetting}

def PipelineOp.isSubscribe : PipelineOp → Bool
  | .subscribe _ => true
  | _ => false

/-- A subscription finds the worker connected, nothing breaks after one, and the client does not
lag. -/
def undisturbed (index : Nat) (before : List (Event (eventPipeline setting)))
    (event : Event (eventPipeline setting)) : Bool :=
  !lagsFor index event.op event.res &&
    (!event.op.isSubscribe || event.before.connection.isSome) &&
    (!breaks event.op event.res || before.all fun earlier => !earlier.op.isSubscribe)

theorem of_undisturbed {index : Nat} {trace before after : List (Event (eventPipeline setting))}
    {event : Event (eventPipeline setting)} {key : String}
    (checked : checkSteps (undisturbed index) [] trace = true)
    (split : trace = before ++ event :: after) (subscribes : event.op = .subscribe key) :
    event.before.connection.isSome ∧ Unbroken after ∧ InTime index after := by
  have here := of_checkSteps checked before event after split
  simp only [undisturbed, subscribes, PipelineOp.isSubscribe, Bool.and_eq_true, Bool.or_eq_true,
    Bool.not_eq_true'] at here
  have later : ∀ other ∈ after, breaks other.op other.res = false ∧
      lagsFor index other.op other.res = false := by
    intro other member
    obtain ⟨front, back, rfl⟩ := List.append_of_mem member
    have there := of_checkSteps checked (before ++ event :: front) other back (by simp [split])
    simp only [undisturbed, Bool.and_eq_true, Bool.or_eq_true, Bool.not_eq_true'] at there
    refine ⟨there.2.resolve_right ?_, there.1.1⟩
    intro none_before
    have absurd := List.all_eq_true.mp none_before event (by simp)
    rw [subscribes] at absurd
    cases absurd
  exact ⟨by simpa using here.1.2, fun other member => (later other member).1,
    fun other member => (later other member).2⟩

def PipelineOp.isStreamNext : PipelineOp → Bool
  | .streamNext => true
  | _ => false

def PipelineOp.isSelect (index : Nat) : PipelineOp → Bool
  | .client other .select => other == index
  | _ => false

/-- The worker and the client wait, and nothing is left to take or to receive. -/
def settled (index : Nat) (last : Pool (eventPipeline setting)) : Bool :=
  last.threads[0]?.any (fun thread => thread.nextOp.any PipelineOp.isStreamNext) &&
    last.state.connection == some last.state.published.length &&
    last.threads.any (fun thread => thread.nextOp.any (PipelineOp.isSelect index)) &&
    last.state.clients[index]?.all fun client =>
      client.live && client.stream.receiver.next == client.stream.receiver.sent.length

theorem of_settled {index : Nat} {last : Pool (eventPipeline setting)} {client : SseClient}
    (at_index : last.state.clients[index]? = some client) (rests : settled index last = true) :
    CaughtUp last ∧ Attending last index ∧ client.live ∧ client.stream.receiver.Drained := by
  simp only [settled, Bool.and_eq_true, beq_iff_eq, Option.any_eq_true, at_index,
    Option.all_some, List.any_eq_true] at rests
  obtain ⟨⟨⟨⟨worker, at_zero, op, waits, isNext⟩, everything⟩, thread, member, streamOp, attends,
    isSelect⟩, live, drained⟩ := rests
  obtain ⟨i, at_i⟩ := List.getElem?_of_mem member
  refine ⟨⟨⟨worker, at_zero, ?_⟩, everything⟩, ⟨i, thread, at_i, ?_⟩, live, drained⟩
  · rw [waits]
    cases op with
    | streamNext => rfl
    | _ => cases isNext
  · rw [attends]
    unfold PipelineOp.isSelect at isSelect
    split at isSelect
    · rw [eq_of_beq isSelect]
    · cases isSelect

end Checks

/-- The client is sent the like, and the like is all that is published. -/
theorem clients_miss_nothing_like :
    ∃ trace last client since, Run (M := eventPipeline pipelineOfPost)
        (Pool.start .start watchedPost) trace last ∧
      last.state.clients[0]? = some client ∧
      channelEvents client.stream.frames = [likeOfPost] ∧
      channelEvents client.stream.frames =
        (last.state.published.drop since).filterMap (pipelineOfPost.sse.about client.key) := by
  obtain ⟨trace, last, run, passed⟩ := Run.exists_of_exec (M := eventPipeline pipelineOfPost)
    likeTurns (Pool.start .start watchedPost)
    (fun trace last => checkSteps (undisturbed 0) [] trace && settled 0 last &&
      firstClientSees last == some [likeOfPost])
    (by decide +kernel)
  obtain ⟨⟨checked, rests⟩, shown⟩ := by
    simpa only [Bool.and_eq_true] using passed
  obtain ⟨client, at_zero, sees⟩ := Option.map_eq_some_iff.mp (eq_of_beq shown)
  obtain ⟨caughtUp, attends, live, drained⟩ := of_settled at_zero rests
  obtain ⟨before, event, after, since, split, subscribes, _, _, _, misses⟩ :=
    clients_miss_nothing pipelineOfPost watchedPost.tail watchedPost_outside trace last run 0
      client at_zero live
  obtain ⟨connected, unbroken, inTime⟩ := of_undisturbed checked split subscribes
  exact ⟨trace, last, client, since, run, at_zero, sees,
    (misses connected unbroken inTime).2 caughtUp attends drained⟩

end SocialApi

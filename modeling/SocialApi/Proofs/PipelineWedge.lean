/-
Module: SocialApi.Proofs.PipelineWedge
Purpose: What becomes of the event pipeline once the worker sends to a channel whose clients have
  all gone: it waits for ever for a lock that it keeps itself.
Trusted boundary: none
Main exports:
  Deserted, Wedged, Wedged.step, wedged_run, deserted_send_ends_delivery
-/
import SocialApi.Proofs.PipelineDelivery

namespace SocialApi

open Process

/-- No client is left on the channel. -/
def Deserted (key : String) (pipeline : Pipeline) : Prop :=
  ∀ client ∈ pipeline.clients, client.live → client.key ≠ key

theorem Counted.deserted {key : String} {pipeline : Pipeline} (counted : Counted pipeline)
    (deserted : Deserted key pipeline) : pipeline.manager.receiversOf key = 0 := by
  rw [counted key, List.countP_eq_zero]
  intro client member
  rw [decide_eq_true_eq]
  rintro ⟨live, same⟩
  exact deserted client member live same

/-- Every client found is still there, and nothing more has been sent to it. -/
def Unheard (found pipeline : Pipeline) : Prop :=
  ∀ (index : Nat) (client : SseClient), found.clients[index]? = some client →
    ∃ later, pipeline.clients[index]? = some later ∧ later.key = client.key ∧
      later.stream.receiver.sent = client.stream.receiver.sent

theorem Unheard.refl (pipeline : Pipeline) : Unheard pipeline pipeline :=
  fun _ client at_index => ⟨client, at_index, rfl, rfl⟩

theorem Unheard.of_eq {found pipeline : Pipeline} (same : pipeline.clients = found.clients) :
    Unheard found pipeline := by
  intro index client at_index
  exact ⟨client, by rw [same, at_index], rfl, rfl⟩

theorem Unheard.trans {found middle pipeline : Pipeline} (one : Unheard found middle)
    (two : Unheard middle pipeline) : Unheard found pipeline := by
  intro index client at_index
  obtain ⟨kept, at_kept, keyKept, sentKept⟩ := one index client at_index
  obtain ⟨later, at_later, keyLater, sentLater⟩ := two index kept at_kept
  exact ⟨later, at_later, keyLater.trans keyKept, sentLater.trans sentKept⟩

/-- One client has changed, but not what it has been sent. -/
theorem Unheard.set {found pipeline : Pipeline} {index : Nat} {client later : SseClient}
    (at_index : found.clients[index]? = some client)
    (clients : pipeline.clients = found.clients.set index later)
    (key_eq : later.key = client.key)
    (sent_eq : later.stream.receiver.sent = client.stream.receiver.sent) :
    Unheard found pipeline := by
  intro other kept at_other
  rw [clients]
  by_cases same : index = other
  · subst same
    obtain rfl := Option.some.inj (at_index.symm.trans at_other)
    exact ⟨later, List.getElem?_set_self (List.getElem?_eq_some_iff.mp at_index).1, key_eq,
      sent_eq⟩
  · exact ⟨kept, by rw [List.getElem?_set_ne same, at_other], rfl, rfl⟩

section Wedged

variable {setting : PipelineSetting}

/-- The worker has found nobody on the channel, keeps its `Ref`, and is to remove the channel:
it takes and sends nothing more, and nobody gets into the shard. -/
structure Wedged (setting : PipelineSetting) (key : String) (found : Pipeline)
    (after : List (Event (eventPipeline setting))) (worker : WorkerPhase) (pipeline : Pipeline) :
    Prop where
  stuck : worker = .counting key ∨ worker = .removing key
  nobody : pipeline.manager.receiversOf key = 0
  connection : pipeline.connection = found.connection
  unheard : Unheard found pipeline
  idle : ∀ event ∈ after, event.thread = 0 → event.op = .channels (.txReceiverCount key)
  shut : ∀ event ∈ after, ∀ other, event.op = .subscribe other →
    setting.sse.shardOf other ≠ setting.sse.shardOf key

variable {key : String} {found next : Pipeline} {phases : List PipelinePhase}
  {worker : WorkerPhase} {event : Event (eventPipeline setting)}
  {trace after : List (Event (eventPipeline setting))}

/-- A step of another thread. -/
theorem Wedged.beside (wedged : Wedged setting key found after worker event.before)
    (notLead : event.thread ≠ 0) (nobody : next.manager.receiversOf key = 0)
    (connection : next.connection = event.before.connection)
    (unheard : Unheard event.before next)
    (shut : ∀ other, event.op = .subscribe other →
      setting.sse.shardOf other ≠ setting.sse.shardOf key) :
    Wedged setting key found (after ++ [event]) worker next where
  stuck := wedged.stuck
  nobody := nobody
  connection := connection.trans wedged.connection
  unheard := wedged.unheard.trans unheard
  idle := by
    intro performed member own
    rcases List.mem_append.mp member with earlier | new
    · exact wedged.idle performed earlier own
    · obtain rfl := List.mem_singleton.mp new
      exact absurd own notLead
  shut := by
    intro performed member
    rcases List.mem_append.mp member with earlier | new
    · exact wedged.shut performed earlier
    · obtain rfl := List.mem_singleton.mp new
      exact shut

/-- The worker has a `Ref` into the shard of the channel. -/
theorem Wedged.locked {pipeline : Pipeline} {shard : Nat}
    (wedged : Wedged setting key found after worker pipeline)
    (at_worker : WorkerAt setting.sse worker pipeline)
    (free : pipeline.manager.refs shard = 0) : shard ≠ setting.sse.shardOf key := by
  rintro rfl
  rw [at_worker.refs] at free
  rcases wedged.stuck with rfl | rfl <;> simp [WorkerPhase.ref] at free

/-- The worker, wedged, learns that nobody receives, and does nothing else. -/
theorem Wedged.own {reached : WorkerPhase} {spawned : List PipelineCall}
    (wedged : Wedged setting key found after worker event.before)
    (at_worker : WorkerAt setting.sse worker event.before) (permitted : worker.Permitted event.op)
    (handled : Pipeline.handle setting event.env event.op event.before =
      some (event.res, next, spawned))
    (reaches : reached = worker.advance setting.sse event.op event.res) :
    Wedged setting key found (after ++ [event]) reached next := by
  obtain ⟨thread, call, env, op, answer, pipeline⟩ := event
  obtain ⟨stuck, nobody, connection, unheard, idle, shut⟩ := wedged
  dsimp only at handled nobody connection unheard reaches
  rcases stuck with rfl | rfl
  · obtain rfl := permitted
    obtain ⟨manager, _, served, rfl, _⟩ := Pipeline.handle_channels handled
    cases served
    have removes : reached = .removing key := by
      rw [reaches]
      simp only [WorkerPhase.advance, nobody, if_true]
    refine ⟨.inr removes, nobody, connection, unheard.trans (.of_eq (map_after_eq ?_)), ?_, ?_⟩
    · exact fun client => rfl
    · intro performed member own
      rcases List.mem_append.mp member with earlier | new
      · exact idle performed earlier own
      · obtain rfl := List.mem_singleton.mp new
        rfl
    · intro performed member other subscribes
      rcases List.mem_append.mp member with earlier | new
      · exact shut performed earlier other subscribes
      · obtain rfl := List.mem_singleton.mp new
        cases subscribes
  · obtain rfl := permitted
    rw [removing_waits at_worker] at handled
    cases handled

/-- The phase of a stream beside its client. -/
theorem Delivering.looping {pipeline : Pipeline} {i index : Nat} {phase : StreamPhase}
    (delivering : Delivering setting trace phases worker pipeline)
    (at_i : phases[i]? = some (.streaming index phase)) : phase ≠ .listening := by
  have bound := delivering.inside i index phase at_i
  obtain ⟨_, sub, _, _, _, phaseOf, _, serves⟩ :=
    delivering.serving index _ (List.getElem?_eq_getElem bound)
  obtain rfl := delivering.distinct _ _ _ _ _ at_i serves.owner
  cases at_i.symm.trans serves.owner
  exact serves.fed.looping

/-- A step of a thread that is not the worker, beside a wedged worker. -/
theorem Wedged.other {phase : PipelinePhase} {spawned : List PipelineCall}
    (wedged : Wedged setting key found after worker event.before)
    (delivering : Delivering setting trace phases worker event.before)
    (at_phase : phases[event.thread]? = some phase) (notLead : event.thread ≠ 0)
    (permitted : phase.Permitted event.op)
    (handled : Pipeline.handle setting event.env event.op event.before =
      some (event.res, next, spawned)) :
    Wedged setting key found (after ++ [event]) worker next := by
  obtain ⟨thread, call, env, op, answer, pipeline⟩ := event
  dsimp only at handled at_phase permitted
  have nobody := wedged.nobody
  have drops : ∀ {index : Nat}, op = .dropReceiver index →
      Wedged setting key found (after ++ [⟨thread, call, env, op, answer, pipeline⟩]) worker
        next := by
    rintro index rfl
    obtain ⟨leaving, at_index, handled⟩ := Option.bind_eq_some_iff.mp handled
    split at handled
    · cases handled
      refine wedged.beside notLead ?_ rfl (.set at_index rfl rfl rfl) (by intro _ is; cases is)
      rw [receiversOf_dropped, nobody, Nat.zero_sub]
    · cases handled
      exact wedged.beside notLead nobody rfl (.refl _) (by intro _ is; cases is)
  cases phase with
  | worker other => exact absurd (delivering.alone _ _ at_phase) notLead
  | entering other =>
      obtain rfl := permitted
      dsimp only [Pipeline.handle] at handled
      obtain ⟨⟨given, manager, started⟩, served, same⟩ := Option.map_eq_some_iff.mp handled
      cases same
      simp only [SseManager.handle] at served
      split at served
      · cases served
      · next free =>
        cases served
        have apart := wedged.locked delivering.atWorker (not_not.mp free)
        have ne : other ≠ key := by
          rintro rfl
          exact apart rfl
        refine wedged.beside notLead ?_ rfl ?_ ?_
        · refine (receiversOf_subscribed _ _ other key).trans ?_
          rw [if_neg ne]
          exact nobody
        · intro index client at_index
          refine ⟨client, ?_, rfl, rfl⟩
          rw [List.getElem?_append_left (List.getElem?_eq_some_iff.mp at_index).1, at_index]
        · intro _ is
          cases is
          exact apart
  | streaming index phase =>
      rcases permitted with ⟨streamOp, rfl, permitted⟩ | is
      · obtain ⟨client, at_index, handled⟩ := Option.bind_eq_some_iff.mp handled
        split at handled
        · obtain ⟨⟨given, stream, started⟩, served, same⟩ := Option.bind_eq_some_iff.mp handled
          cases same
          have sent := ClientStream.handle_sent (delivering.looping at_phase) permitted served
          exact wedged.beside notLead nobody rfl (.set at_index rfl rfl sent)
            (by intro _ is; cases is)
        · cases handled
      · exact drops is
  | outside =>
      rcases permitted with ⟨channel, payload, rfl⟩ | rfl | ⟨index, is⟩
      · simp only [Pipeline.handle] at handled
        split at handled
        · cases handled
          exact wedged.beside notLead nobody rfl (.refl _) (by intro _ is; cases is)
        · cases handled
          refine wedged.beside notLead ?_ ?_ (.of_eq ?_) (by intro _ is; cases is)
          · split <;> exact nobody
          · split <;> rfl
          · split <;> rfl
      · cases handled
        exact wedged.beside notLead nobody rfl (.refl _) (by intro _ is; cases is)
      · exact drops is

/-- The step law of a wedged worker. -/
theorem Wedged.step {phase : PipelinePhase} {spawned : List PipelineCall} {reached : WorkerPhase}
    (wedged : Wedged setting key found after worker event.before)
    (delivering : Delivering setting trace phases worker event.before)
    (at_phase : phases[event.thread]? = some phase) (permitted : phase.Permitted event.op)
    (handled : Pipeline.handle setting event.env event.op event.before =
      some (event.res, next, spawned))
    (lead : (phases.set event.thread (phase.advance setting.sse event.op event.res))[0]? =
      some (.worker reached)) :
    Wedged setting key found (after ++ [event]) reached next := by
  by_cases own : event.thread = 0
  · rw [own, delivering.lead] at at_phase
    obtain rfl := Option.some.inj at_phase
    rw [own, List.getElem?_set_self (List.getElem?_eq_some_iff.mp delivering.lead).1] at lead
    cases lead
    exact wedged.own delivering.atWorker permitted handled rfl
  · rw [List.getElem?_set_ne own, delivering.lead] at lead
    cases lead
    exact wedged.other delivering at_phase own permitted handled

/-- The worker sends to a channel that nobody receives from. -/
theorem wedged_start {phase : PipelinePhase} {spawned : List PipelineCall} {reached : WorkerPhase}
    {read : SseLikeEvent} (sends : event.op = .channels (.txSend key read))
    (deserted : Deserted key event.before)
    (delivering : Delivering setting trace phases worker event.before)
    (at_phase : phases[event.thread]? = some phase) (permitted : phase.Permitted event.op)
    (handled : Pipeline.handle setting event.env event.op event.before =
      some (event.res, next, spawned))
    (lead : (phases.set event.thread (phase.advance setting.sse event.op event.res))[0]? =
      some (.worker reached)) :
    Wedged setting key event.before [] reached next := by
  obtain ⟨thread, call, env, op, answer, pipeline⟩ := event
  dsimp only at sends deserted delivering at_phase permitted handled lead
  subst sends
  have nobody := delivering.counted.deserted deserted
  obtain ⟨other, rfl, sends⟩ := PipelinePhase.permitted_channels permitted
  obtain rfl := delivering.alone _ _ at_phase
  rw [List.getElem?_set_self (List.getElem?_eq_some_iff.mp delivering.lead).1] at lead
  cases lead
  obtain ⟨manager, _, served, rfl, _⟩ := Pipeline.handle_channels handled
  simp only [SseManager.handle, if_pos nobody] at served
  cases served
  cases other with
  | sending here event =>
      cases sends
      refine ⟨.inl rfl, nobody, rfl, .of_eq (map_after_eq ?_), ?_, ?_⟩
      · exact fun client => rfl
      · intro _ member
        cases member
      · intro _ member
        cases member
  | resting => rcases sends with is | is | is | is <;> cases is
  | _ => cases sends

end Wedged

/-! ### Runs -/

section Runs

variable {setting : PipelineSetting} {others : List PipelineCall}
  {trace : List (Event (eventPipeline setting))} {last : Pool (eventPipeline setting)}

/-- The run law: after each send to a channel whose clients have gone, the worker is wedged. -/
theorem wedged_run (outside : ∀ call ∈ others, call.FromOutside)
    (run : Run (M := eventPipeline setting)
      (Pool.start .start (.runCacheEventListener :: others)) trace last) :
    ∃ phases worker,
      Phased (M := eventPipeline setting) (PipelinePhase.advance setting.sse)
        PipelinePhase.Permitted (fun _ _ _ => True) PipelinePhase.Final phases last ∧
      Delivering setting trace phases worker last.state ∧
      ∀ before event after key read, trace = before ++ event :: after →
        event.op = .channels (.txSend key read) → Deserted key event.before →
          Wedged setting key event.before after worker last.state := by
  obtain ⟨phases, phased, _, worker, delivering, wedged⟩ := Run.phases
    (fun trace phases pipeline => ∃ worker, Delivering setting trace phases worker pipeline ∧
      ∀ before event after key read, trace = before ++ event :: after →
        event.op = .channels (.txSend key read) → Deserted key event.before →
          Wedged setting key event.before after worker pipeline)
    (pipeline_obeys setting) pipeline_tails (among_of_outside outside) run
    ⟨.resting, delivering_start outside, by
      intro before event after key read split
      simp at split⟩
    (by
      intro before event after phases phase next spawned split known led at_phase permitted
        handled kept
      obtain ⟨worker, delivering, wedged⟩ := kept
      obtain ⟨reached, stepped⟩ := delivering_step delivering at_phase permitted handled
      refine ⟨Pipeline.handle_spawned handled, trivial, reached, stepped, ?_⟩
      intro earlier sending later key read split sends deserted
      rcases split_concat split with ⟨rfl, rfl⟩ | ⟨since, rfl⟩
      · obtain rfl : later = [] := by simpa using split
        exact wedged_start sends deserted delivering at_phase permitted handled stepped.lead
      · obtain rfl : later = since ++ [event] := by simpa using split.symm
        exact (wedged earlier sending since key read rfl sends deserted).step delivering
          at_phase permitted handled stepped.lead)
  exact ⟨phases, worker, phased, delivering, wedged⟩

/-- In every run with one worker: once it has sent an event to a channel whose clients have all
gone, it never again takes a payload, sends an event, looks at the token or comes back; every
client is sent nothing more; and nobody subscribes to an item in the shard of the channel. -/
theorem deserted_send_ends_delivery (setting : PipelineSetting) (others : List PipelineCall)
    (outside : ∀ call ∈ others, call.FromOutside) (trace : List (Event (eventPipeline setting)))
    (last : Pool (eventPipeline setting))
    (run : Run (M := eventPipeline setting)
      (Pool.start .start (.runCacheEventListener :: others)) trace last)
    (before : List (Event (eventPipeline setting))) (event : Event (eventPipeline setting))
    (after : List (Event (eventPipeline setting))) (split : trace = before ++ event :: after)
    (key : String) (read : SseLikeEvent) (sends : event.op = .channels (.txSend key read))
    (deserted : Deserted key event.before) :
    (∀ later ∈ after, later.thread = 0 → later.op = .channels (.txReceiverCount key)) ∧
      (∀ thread, last.threads[0]? = some thread → ¬ thread.Returned) ∧
      last.state.connection = event.before.connection ∧
      Unheard event.before last.state ∧
      ∀ later ∈ after, ∀ other, later.op = .subscribe other →
        setting.sse.shardOf other ≠ setting.sse.shardOf key := by
  obtain ⟨phases, worker, phased, delivering, wedged⟩ := wedged_run outside run
  obtain ⟨stuck, _, connection, unheard, idle, shut⟩ :=
    wedged before event after key read split sends deserted
  refine ⟨idle, ?_, connection, unheard, shut⟩
  rintro thread at_zero ⟨reply, returned⟩
  have ended := phased.returned at_zero delivering.lead returned
  rcases stuck with rfl | rfl <;> cases ended.1

/-- A send to a channel whose clients have gone. -/
def desertedSend (event : Event (eventPipeline setting)) : Bool :=
  match event.op with
  | .channels (.txSend key _) => event.before.clients.all fun client =>
      !(client.live && client.key == key)
  | _ => false

theorem of_desertedSend {event : Event (eventPipeline setting)}
    (checked : desertedSend event = true) :
    ∃ key read, event.op = .channels (.txSend key read) ∧ Deserted key event.before := by
  unfold desertedSend at checked
  split at checked
  · next key read sends =>
    refine ⟨key, read, sends, ?_⟩
    intro client member live same
    have gone := List.all_eq_true.mp checked client member
    simp [live, same] at gone
  · cases checked

end Runs

/-- The worker, a client of the post that leaves, two likes of the post, and a shutdown. -/
def desertedPost : List PipelineCall :=
  [.runCacheEventListener, .sseStream ⟨"post"⟩ ⟨9⟩, .disconnect 0, .publishLikeEvent likeOfPost,
    .publishLikeEvent likeOfPost, .shutdown]

theorem desertedPost_outside : ∀ call ∈ desertedPost.tail, call.FromOutside := by
  intro call member
  simp only [desertedPost, List.tail_cons, List.mem_cons, List.not_mem_nil, or_false] at member
  rcases member with rfl | rfl | rfl | rfl | rfl <;> trivial

/-- The client leaves, and the next like stops the worker: it takes no second like, and outlives
the shutdown. -/
theorem deserted_send_ends_delivery_of_post :
    ∃ trace last before event after, Run (M := eventPipeline pipelineOfPost)
        (Pool.start .start desertedPost) trace last ∧ trace = before ++ event :: after ∧
      last.state.published.length = 2 ∧ last.state.cancelled = true ∧
      last.state.connection = some 1 ∧ event.before.connection = some 1 ∧
      (∀ later ∈ after, later.thread = 0 → ∃ key, later.op = .channels (.txReceiverCount key)) ∧
      ∀ thread, last.threads[0]? = some thread → ¬ thread.Returned := by
  obtain ⟨trace, last, run, passed⟩ := Run.exists_of_exec (M := eventPipeline pipelineOfPost)
    (pipelineTurns 0 3 ++ pipelineTurns 1 2 ++ pipelineTurns 2 1 ++ pipelineTurns 3 1 ++
      pipelineTurns 0 4 ++ pipelineTurns 4 1 ++ pipelineTurns 5 1)
    (Pool.start .start desertedPost)
    (fun trace last => trace.any desertedSend && last.state.published.length == 2 &&
      last.state.cancelled && last.state.connection == some 1)
    (by decide +kernel)
  simp only [Bool.and_eq_true, List.any_eq_true, beq_iff_eq] at passed
  obtain ⟨⟨⟨⟨event, member, checked⟩, published⟩, cancelled⟩, connection⟩ := passed
  obtain ⟨before, after, split⟩ := List.append_of_mem member
  obtain ⟨key, read, sends, deserted⟩ := of_desertedSend checked
  obtain ⟨idle, never, kept, _, _⟩ := deserted_send_ends_delivery pipelineOfPost
    desertedPost.tail desertedPost_outside trace last run before event after split key read sends
    deserted
  exact ⟨trace, last, before, event, after, run, split, published, cancelled, connection,
    kept.symm.trans connection, fun later among own => ⟨key, idle later among own⟩, never⟩

end SocialApi

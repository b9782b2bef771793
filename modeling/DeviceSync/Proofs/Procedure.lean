import DeviceSync.Procedure

/-!
# Procedures between their calls

What holds at every moment of a procedure, and what the calls of a procedure leave alone.

1. `done_bind`, `ask_bind`, `bind_done`: composition, call by call.
2. `Throughout`: a property of all stages, put together by `throughout_bind`.
3. `Only`: a bound on the calls that a procedure may make, whatever it is answered.
   `Only.throughout` carries an invariant of these calls through the whole procedure, and
   `Only.frame` says that a part of the state which they leave alone is left alone.
   `Always` is a bound on the results.
4. `Ensures`: what a procedure comes to when each call may be answered in several ways, and others
   act between the calls. It is seen on a part of the state (`Ensures.run`).
5. `Obeys`: the same, where each call is to be permitted at the place where it is made.
6. `Leads`: the calls that were made, from a procedure to what remains of it. `Meets`: calls that no
   run of a procedure leaves out, but for those with certain results.
-/

namespace DeviceSync

namespace Procedure

variable {Call : Type} {Answer : Call → Type} {α β γ σ : Type}
variable {effect : (c : Call) → σ → Answer c × σ}

/-! ## 1. Composition -/

@[simp] theorem pure_eq_done (a : α) : (pure a : Procedure Call Answer α) = done a := rfl

@[simp] theorem done_bind (a : α) (f : α → Procedure Call Answer β) : (done a).bind f = f a := rfl

@[simp] theorem ask_bind (c : Call) (next : Answer c → Procedure Call Answer α)
    (f : α → Procedure Call Answer β) :
    (ask c next).bind f = ask c fun answer => (next answer).bind f := rfl

@[simp] theorem bind_done (p : Procedure Call Answer α) : p.bind done = p := by
  induction p with
  | done a => rfl
  | ask c next ih => exact congrArg (ask c) (funext ih)

/-! ## 2. All stages -/

/-- A property holds at the start of a procedure and after each of its calls. -/
def Throughout (effect : (c : Call) → σ → Answer c × σ) (P : σ → Prop)
    (p : Procedure Call Answer α) (s : σ) : Prop :=
  ∀ s' ∈ p.stages effect s, P s'

@[simp] theorem throughout_done {P : σ → Prop} {a : α} {s : σ} :
    Throughout effect P (done a) s ↔ P s := by
  simp [Throughout, stages]

@[simp] theorem throughout_ask {P : σ → Prop} {c : Call} {next : Answer c → Procedure Call Answer α}
    {s : σ} : Throughout effect P (ask c next) s ↔
      P s ∧ Throughout effect P (next (effect c s).1) (effect c s).2 := by
  simp [Throughout, stages]

theorem Throughout.start {P : σ → Prop} {p : Procedure Call Answer α} {s : σ}
    (h : Throughout effect P p s) : P s := by
  cases p with
  | done a => exact throughout_done.mp h
  | ask c next => exact (throughout_ask.mp h).1

theorem Throughout.run {P : σ → Prop} {p : Procedure Call Answer α} {s : σ}
    (h : Throughout effect P p s) : P (p.run effect s).2 := by
  induction p generalizing s with
  | done a => exact throughout_done.mp h
  | ask c next ih => exact ih _ (throughout_ask.mp h).2

theorem Throughout.imp {P Q : σ → Prop} {p : Procedure Call Answer α} {s : σ}
    (h : Throughout effect P p s) (hPQ : ∀ s', P s' → Q s') : Throughout effect Q p s :=
  fun s' hs' => hPQ s' (h s' hs')

/-- One procedure after another keeps a property throughout if both do. -/
theorem throughout_bind {P : σ → Prop} {p : Procedure Call Answer α}
    {f : α → Procedure Call Answer β} {s : σ} (hp : Throughout effect P p s)
    (hf : Throughout effect P (f (p.run effect s).1) (p.run effect s).2) :
    Throughout effect P (p.bind f) s := by
  induction p generalizing s with
  | done a => exact hf
  | ask c next ih =>
    obtain ⟨hs, hnext⟩ := throughout_ask.mp hp
    exact throughout_ask.mpr ⟨hs, ih _ hnext hf⟩

/-- What every call preserves holds throughout. -/
theorem throughout_of_calls {P : σ → Prop} (step : ∀ c s, P s → P (effect c s).2)
    (p : Procedure Call Answer α) {s : σ} (hs : P s) : Throughout effect P p s := by
  induction p generalizing s with
  | done a => exact throughout_done.mpr hs
  | ask c next ih => exact throughout_ask.mpr ⟨hs, ih _ (step c s hs)⟩

/-- A change of the state that no call notices and every call keeps can be made beforehand. -/
theorem Throughout.transport {P : σ → Prop} {f : σ → σ}
    (commutes : ∀ c s, effect c (f s) = ((effect c s).1, f (effect c s).2))
    {p : Procedure Call Answer α} {s : σ} (h : Throughout effect (fun s' => P (f s')) p s) :
    Throughout effect P p (f s) := by
  induction p generalizing s with
  | done a => exact throughout_done.mpr (h s List.mem_cons_self)
  | ask c next ih =>
    obtain ⟨hs, hnext⟩ := throughout_ask.mp h
    rw [throughout_ask, commutes]
    exact ⟨hs, ih _ hnext⟩

/-- Whatever the procedure is answered, it only makes allowed calls. -/
def Only (allowed : Call → Prop) : Procedure Call Answer α → Prop
  | done _ => True
  | ask c next => allowed c ∧ ∀ answer, (next answer).Only allowed

theorem Only.imp {allowed allowed' : Call → Prop} {p : Procedure Call Answer α}
    (hp : p.Only allowed) (h : ∀ c, allowed c → allowed' c) : p.Only allowed' := by
  induction p with
  | done a => trivial
  | ask c next ih => exact ⟨h c hp.1, fun answer => ih answer (hp.2 answer)⟩

theorem only_bind {allowed : Call → Prop} {p : Procedure Call Answer α}
    {f : α → Procedure Call Answer β} (hp : p.Only allowed) (hf : ∀ a, (f a).Only allowed) :
    (p.bind f).Only allowed := by
  induction p with
  | done a => exact hf a
  | ask c next ih => exact ⟨hp.1, fun answer => ih answer (hp.2 answer)⟩

/-- What every allowed call preserves holds throughout. -/
theorem Only.throughout {allowed : Call → Prop} {P : σ → Prop}
    (step : ∀ c, allowed c → ∀ s, P s → P (effect c s).2)
    {p : Procedure Call Answer α} (hp : p.Only allowed) {s : σ} (hs : P s) :
    Throughout effect P p s := by
  induction p generalizing s with
  | done a => exact throughout_done.mpr hs
  | ask c next ih =>
    exact throughout_ask.mpr ⟨hs, ih _ (hp.2 _) (step c hp.1 s hs)⟩

/-- What every allowed call leaves alone is the same throughout. -/
theorem Only.frame {allowed : Call → Prop} {part : σ → γ}
    (step : ∀ c, allowed c → ∀ s, part (effect c s).2 = part s)
    {p : Procedure Call Answer α} (hp : p.Only allowed) (s : σ) :
    Throughout effect (fun s' => part s' = part s) p s :=
  hp.throughout (fun c hc s' hs' => (step c hc s').trans hs') rfl

/-- Whatever the procedure is answered, its result is of this kind. -/
def Always (kind : α → Prop) : Procedure Call Answer α → Prop
  | done a => kind a
  | ask _ next => ∀ answer, (next answer).Always kind

theorem always_trivial (p : Procedure Call Answer α) : p.Always fun _ => True := by
  induction p with
  | done a => trivial
  | ask c next ih => exact ih

theorem always_bind {kind : α → Prop} {kind' : β → Prop} {p : Procedure Call Answer α}
    {f : α → Procedure Call Answer β} (hp : p.Always kind) (hf : ∀ a, kind a → (f a).Always kind') :
    (p.bind f).Always kind' := by
  induction p with
  | done a => exact hf a hp
  | ask c next ih => exact fun answer => ih answer (hp answer)

/-! ## 4. Calls that may be answered in several ways -/

variable {allows : (c : Call) → σ → Answer c → σ → Prop} {post post' : α → σ → Prop}
variable {p : Procedure Call Answer α} {s : σ}

/-- However the calls are answered, the procedure ends with `post`; `allows` says which answers a
call may get, and what it then leaves behind. -/
def Ensures (allows : (c : Call) → σ → Answer c → σ → Prop) (post : α → σ → Prop) :
    Procedure Call Answer α → σ → Prop
  | done a, s => post a s
  | ask c next, s => ∀ answer s', allows c s answer s' → (next answer).Ensures allows post s'

theorem Ensures.imp (h : p.Ensures allows post s) (hpost : ∀ a s', post a s' → post' a s') :
    p.Ensures allows post' s := by
  induction p generalizing s with
  | done a => exact hpost a s h
  | ask c next ih => exact fun answer s' hallows => ih answer (h answer s' hallows)

theorem ensures_bind {f : α → Procedure Call Answer β} {post : β → σ → Prop} :
    (p.bind f).Ensures allows post s ↔ p.Ensures allows (fun a => (f a).Ensures allows post) s := by
  induction p generalizing s with
  | done a => exact Iff.rfl
  | ask c next ih =>
    exact forall_congr' fun answer => forall_congr' fun s' => imp_congr_right fun _ => ih answer

/-- A bound on the results comes on top of what is ensured. -/
theorem Ensures.and_always {kind : α → Prop} (h : p.Ensures allows post s) (hkind : p.Always kind) :
    p.Ensures allows (fun a s' => kind a ∧ post a s') s := by
  induction p generalizing s with
  | done a => exact ⟨hkind, h⟩
  | ask c next ih => exact fun answer s' hallows => ih answer (h answer s' hallows) (hkind answer)

/-- A procedure leaves alone what all its calls leave alone. -/
theorem Only.ensures {allowed : Call → Prop} (hp : p.Only allowed)
    (keeps : ∀ c, allowed c → ∀ answer s', allows c s answer s' → s' = s) :
    p.Ensures allows (fun _ s' => s' = s) s := by
  induction p with
  | done a => rfl
  | ask c next ih =>
    intro answer s' hallows
    obtain rfl := keeps c hp.1 answer s' hallows
    exact ih answer (hp.2 answer)

/-- Carried out in one go, the calls being answered within what is allowed, a procedure ends as
ensured. -/
theorem Ensures.run {τ : Type} {view : τ → σ} {good : τ → Prop}
    {effect : (c : Call) → τ → Answer c × τ}
    (calls : ∀ c t, good t →
      allows c (view t) (effect c t).1 (view (effect c t).2) ∧ good (effect c t).2)
    {t : τ} (h : p.Ensures allows post (view t)) (ht : good t) :
    post (p.run effect t).1 (view (p.run effect t).2) ∧ good (p.run effect t).2 := by
  induction p generalizing t with
  | done a => exact ⟨h, ht⟩
  | ask c next ih =>
    obtain ⟨hallows, hgood⟩ := calls c t ht
    exact ih _ (h _ _ hallows) hgood

/-! ## 5. Calls that are to be permitted -/

variable {permits : Call → σ → Prop}

/-- However the calls are answered, each is permitted where it is made, and the procedure ends with
`post`. -/
def Obeys (permits : Call → σ → Prop) (allows : (c : Call) → σ → Answer c → σ → Prop)
    (post : α → σ → Prop) : Procedure Call Answer α → σ → Prop
  | done a, s => post a s
  | ask c next, s =>
    permits c s ∧ ∀ answer s', allows c s answer s' → (next answer).Obeys permits allows post s'

theorem Obeys.imp (h : p.Obeys permits allows post s) (hpost : ∀ a s', post a s' → post' a s') :
    p.Obeys permits allows post' s := by
  induction p generalizing s with
  | done a => exact hpost a s h
  | ask c next ih => exact ⟨h.1, fun answer s' hallows => ih answer (h.2 answer s' hallows)⟩

theorem obeys_bind {f : α → Procedure Call Answer β} {post : β → σ → Prop} :
    (p.bind f).Obeys permits allows post s ↔
      p.Obeys permits allows (fun a => (f a).Obeys permits allows post) s := by
  induction p generalizing s with
  | done a => exact Iff.rfl
  | ask c next ih =>
    refine and_congr_right fun _ => ?_
    exact forall_congr' fun answer => forall_congr' fun s' => imp_congr_right fun _ => ih answer

/-- A procedure whose calls are permitted and leave everything alone. -/
theorem Only.obeys {allowed : Call → Prop} (hp : p.Only allowed)
    (fits : ∀ c, allowed c → permits c s ∧ ∀ answer s', allows c s answer s' → s' = s) :
    p.Obeys permits allows (fun _ s' => s' = s) s := by
  induction p with
  | done a => rfl
  | ask c next ih =>
    obtain ⟨hpermits, hkeeps⟩ := fits c hp.1
    refine ⟨hpermits, fun answer s' hallows => ?_⟩
    obtain rfl := hkeeps answer s' hallows
    exact ih answer (hp.2 answer)

theorem only_embed {Call' : Type} {Answer' : Call' → Type} {f : Call → Call'}
    {g : (c : Call) → Answer' (f c) → Answer c} {allowed : Call' → Prop}
    (h : ∀ c, allowed (f c)) (p : Procedure Call Answer α) : (p.embed f g).Only allowed := by
  induction p with
  | done a => trivial
  | ask c next ih => exact ⟨h c, fun answer => ih (g c answer)⟩

/-! ## 6. The calls that were made -/

/-- The calls, each with its answer, that lead from a procedure to what remains of it. -/
inductive Leads : Procedure Call Answer α → List ((c : Call) × Answer c) →
    Procedure Call Answer α → Prop
  | here (p : Procedure Call Answer α) : Leads p [] p
  | ask {c : Call} {next : Answer c → Procedure Call Answer α} {answer : Answer c}
      {calls : List ((c : Call) × Answer c)} {rest : Procedure Call Answer α} :
      Leads (next answer) calls rest → Leads (ask c next) (⟨c, answer⟩ :: calls) rest

theorem Leads.snoc {c : Call} {next : Answer c → Procedure Call Answer α}
    {calls : List ((c : Call) × Answer c)} (leads : Leads p calls (.ask c next)) (answer : Answer c) :
    Leads p (calls ++ [⟨c, answer⟩]) (next answer) := by
  generalize hrest : Procedure.ask c next = rest at leads
  induction leads with
  | here =>
    subst hrest
    exact .ask (.here _)
  | ask _ ih => exact .ask (ih hrest)

/-- A procedure that has come to its end made its first call. -/
theorem Leads.of_ask {c : Call} {next : Answer c → Procedure Call Answer α}
    {calls : List ((c : Call) × Answer c)} {a : α} (leads : Leads (.ask c next) calls (done a)) :
    ∃ (answer : Answer c) (later : List ((c : Call) × Answer c)),
      calls = ⟨c, answer⟩ :: later ∧ Leads (next answer) later (done a) := by
  cases leads with
  | ask hlater => exact ⟨_, _, rfl, hlater⟩

/-- Whatever the procedure is answered, it makes one of these calls, unless its result is of this
kind. -/
def Meets (wanted : Call → Prop) (kind : α → Prop) : Procedure Call Answer α → Prop
  | done a => kind a
  | ask c next => wanted c ∨ ∀ answer, (next answer).Meets wanted kind

theorem Leads.meets {calls : List ((c : Call) × Answer c)} {a : α} {wanted : Call → Prop}
    {kind : α → Prop} (leads : Leads p calls (done a)) (h : p.Meets wanted kind)
    (other : ¬ kind a) : ∃ made ∈ calls, wanted made.1 := by
  generalize hrest : (done a : Procedure Call Answer α) = rest at leads
  induction leads with
  | here =>
    subst hrest
    exact absurd h other
  | @ask _ _ answer _ _ _ ih =>
    rcases h with hwanted | hnext
    · exact ⟨_, List.mem_cons_self, hwanted⟩
    · obtain ⟨made, hmade, hwanted⟩ := ih (hnext answer) hrest
      exact ⟨made, List.mem_cons_of_mem _ hmade, hwanted⟩

end Procedure

end DeviceSync

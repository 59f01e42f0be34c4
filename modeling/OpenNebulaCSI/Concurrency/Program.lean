import Mathlib.Data.List.Basic
import Mathlib.Logic.Function.Basic

/-!
# Programs that call their environment

A `Program Op Ans α` is a finite-branching interaction: it either returns a value or calls an
operation and continues with the answer. Nothing about the answers is fixed here, so one program
text can be run alone, inside a pool of threads, or against an adversarial environment.

The **history** of a program is the list of the operations it has called with their answers. A
`Contract` says which answers may be relied on and which operations may be called, both relative
to the history, and `Program.Meets` is the statement that a program keeps its side of a contract
and establishes a postcondition. The rules `meets_pure`, `meets_perform`, `meets_bind` and
`Meets.mono` reduce a program to its subroutines; `Only.meets` is the frame rule for subroutines
that call no operation of interest.
-/

namespace OpenNebulaCSI.Concurrency

/-- A program over the operations `Op`, where `op` is answered by a value of type `Ans op`. -/
inductive Program (Op : Type) (Ans : Op → Type) (α : Type) : Type where
  | ret (value : α)
  | call (op : Op) (next : Ans op → Program Op Ans α)

/-- One operation call together with its answer. -/
structure Event (Op : Type) (Ans : Op → Type) where
  op : Op
  ans : Ans op

variable {Op : Type} {Ans : Op → Type} {α β : Type}

instance [DecidableEq Op] [∀ op, DecidableEq (Ans op)] : DecidableEq (Event Op Ans)
  | ⟨op, ans⟩, ⟨op', ans'⟩ =>
    if h : op = op' then decidable_of_iff (h ▸ ans = ans') (by subst h; simp)
    else isFalse fun heq => h (congrArg Event.op heq)

namespace Program

protected def bind : Program Op Ans α → (α → Program Op Ans β) → Program Op Ans β
  | .ret value, f => f value
  | .call op next, f => .call op fun ans => (next ans).bind f

instance : Monad (Program Op Ans) where
  pure := .ret
  bind := Program.bind

/-- The same program over other operations, whose answers are translated back. -/
def lift {Op' : Type} {Ans' : Op' → Type} (f : Op → Op') (g : (op : Op) → Ans' (f op) → Ans op) :
    Program Op Ans α → Program Op' Ans' α
  | .ret value => .ret value
  | .call op next => .call (f op) fun ans => (next (g op ans)).lift f g

/-- The program in which every operation is replaced by what a program over other operations does
for it. -/
def interp {Op' : Type} {Ans' : Op' → Type} (meaning : (op : Op) → Program Op' Ans' (Ans op)) :
    Program Op Ans α → Program Op' Ans' α
  | .ret value => .ret value
  | .call op next => (meaning op).bind fun ans => (next ans).interp meaning

/-- The value of a program whose operations are always answered alike. -/
def eval (answer : (op : Op) → Ans op) : Program Op Ans α → α
  | .ret value => value
  | .call op next => (next (answer op)).eval answer

/-- The program that calls `op` and returns its answer. -/
def perform (op : Op) : Program Op Ans (Ans op) :=
  .call op .ret

@[simp]
theorem pure_eq (value : α) : (pure value : Program Op Ans α) = .ret value :=
  rfl

@[simp]
theorem ret_bind (value : α) (f : α → Program Op Ans β) : (Program.ret value >>= f) = f value :=
  rfl

@[simp]
theorem call_bind (op : Op) (next : Ans op → Program Op Ans α) (f : α → Program Op Ans β) :
    (Program.call op next >>= f) = .call op fun ans => next ans >>= f :=
  rfl

@[simp]
theorem bind_assoc {γ : Type} (p : Program Op Ans α) (f : α → Program Op Ans β)
    (g : β → Program Op Ans γ) : (p >>= f) >>= g = p >>= fun value => f value >>= g := by
  induction p with
  | ret value => rfl
  | call op next ih =>
    simp only [call_bind, call.injEq, heq_eq_eq, true_and]
    funext ans
    exact ih ans

@[simp]
theorem perform_bind (op : Op) (f : Ans op → Program Op Ans β) :
    (perform op >>= f) = .call op f :=
  rfl

theorem lift_bind {Op' : Type} {Ans' : Op' → Type} {f : Op → Op'}
    {g : (op : Op) → Ans' (f op) → Ans op} (p : Program Op Ans α) (next : α → Program Op Ans β) :
    (p >>= next).lift f g = p.lift f g >>= fun value => (next value).lift f g := by
  induction p with
  | ret value => rfl
  | call op rest ih =>
    simp only [call_bind, lift, call.injEq, heq_eq_eq, true_and]
    funext ans
    exact ih (g op ans)

section Interp

variable {Op' : Type} {Ans' : Op' → Type} (meaning : (op : Op) → Program Op' Ans' (Ans op))

theorem interp_call (op : Op) (next : Ans op → Program Op Ans α) :
    (Program.call op next).interp meaning = meaning op >>= fun ans => (next ans).interp meaning :=
  rfl

theorem interp_perform (op : Op) : (perform op).interp meaning = meaning op := by
  show meaning op >>= Program.ret = meaning op
  induction meaning op with
  | ret value => rfl
  | call op next ih =>
    simp only [call_bind, call.injEq, heq_eq_eq, true_and]
    exact funext ih

theorem interp_bind (p : Program Op Ans α) (f : α → Program Op Ans β) :
    (p >>= f).interp meaning = p.interp meaning >>= fun value => (f value).interp meaning := by
  induction p with
  | ret value => rfl
  | call op next ih => simp only [call_bind, interp_call, bind_assoc, ih]

end Interp

section Eval

variable (answer : (op : Op) → Ans op)

@[simp]
theorem eval_ret (value : α) : (Program.ret value : Program Op Ans α).eval answer = value :=
  rfl

@[simp]
theorem eval_call (op : Op) (next : Ans op → Program Op Ans α) :
    (Program.call op next).eval answer = (next (answer op)).eval answer :=
  rfl

@[simp]
theorem eval_pure (value : α) : (pure value : Program Op Ans α).eval answer = value :=
  rfl

@[simp]
theorem eval_perform (op : Op) : (perform op : Program Op Ans (Ans op)).eval answer = answer op :=
  rfl

@[simp]
theorem eval_bind (p : Program Op Ans α) (f : α → Program Op Ans β) :
    (p >>= f).eval answer = (f (p.eval answer)).eval answer := by
  induction p with
  | ret value => rfl
  | call op next ih => exact ih (answer op)

end Eval

end Program

/-! ## Contracts -/

/-- What a program may rely on and what it guarantees, relative to its history. -/
structure Contract (Op : Type) (Ans : Op → Type) where
  /-- The answers that may be given to `op` after the history. -/
  rely : List (Event Op Ans) → (op : Op) → Ans op → Prop
  /-- The operations that may be called after the history. -/
  guar : List (Event Op Ans) → Op → Prop

namespace Program

/-- Started with the history `past`, the program calls only what `C` allows as long as the
answers are those `C` relies on, and `post` holds of the final history and the result. -/
def Meets : Program Op Ans α → Contract Op Ans → (List (Event Op Ans) → α → Prop) →
    List (Event Op Ans) → Prop
  | .ret value, _, post, past => post past value
  | .call op next, C, post, past =>
    C.guar past op ∧ ∀ ans, C.rely past op ans → (next ans).Meets C post (past ++ [⟨op, ans⟩])

variable {C : Contract Op Ans} {past : List (Event Op Ans)}
  {post : List (Event Op Ans) → α → Prop} {p : Program Op Ans α} {value : α}

@[simp]
theorem meets_ret : (Program.ret value).Meets C post past ↔ post past value :=
  Iff.rfl

@[simp]
theorem meets_pure : (pure value : Program Op Ans α).Meets C post past ↔ post past value :=
  Iff.rfl

variable {op : Op}

theorem meets_call {next : Ans op → Program Op Ans α} :
    (Program.call op next).Meets C post past ↔
      C.guar past op ∧ ∀ ans, C.rely past op ans →
        (next ans).Meets C post (past ++ [⟨op, ans⟩]) :=
  Iff.rfl

@[simp]
theorem meets_perform {post : List (Event Op Ans) → Ans op → Prop} :
    (perform op : Program Op Ans (Ans op)).Meets C post past ↔
      C.guar past op ∧ ∀ ans, C.rely past op ans → post (past ++ [⟨op, ans⟩]) ans :=
  Iff.rfl

variable {f : α → Program Op Ans β}

/-- Sequencing: the continuation starts with the history the first part has left. -/
@[simp]
theorem meets_bind {post : List (Event Op Ans) → β → Prop} :
    (p >>= f).Meets C post past ↔
      p.Meets C (fun later value => (f value).Meets C post later) past := by
  induction p generalizing past with
  | ret value => rfl
  | call op next ih => simp only [call_bind, meets_call, ih]

theorem Meets.perform {f : Ans op → Program Op Ans β} {post : List (Event Op Ans) → β → Prop}
    (hguar : C.guar past op)
    (hnext : ∀ ans, C.rely past op ans → (f ans).Meets C post (past ++ [⟨op, ans⟩])) :
    (Program.perform op >>= f).Meets C post past :=
  meets_bind.2 (meets_perform.2 ⟨hguar, hnext⟩)

theorem Meets.mono {post' : List (Event Op Ans) → α → Prop} (hp : p.Meets C post past)
    (himp : ∀ later value, post later value → post' later value) :
    p.Meets C post' past := by
  induction p generalizing past with
  | ret value => exact himp _ _ hp
  | call op next ih => exact ⟨hp.1, fun ans hans => ih ans (hp.2 ans hans)⟩

/-- What holds after a program is what the next one starts from. -/
theorem Meets.bind {p : Program Op Ans α} {post : List (Event Op Ans) → α → Prop}
    {post' : List (Event Op Ans) → β → Prop} (hp : p.Meets C post past)
    (hf : ∀ later value, post later value → (f value).Meets C post' later) :
    (p >>= f).Meets C post' past :=
  meets_bind.2 (hp.mono hf)

/-- A program that meets a contract keeps its postcondition under answers that may be relied on. -/
theorem Meets.eval {post : α → Prop} {answer : (op : Op) → Ans op}
    (hp : p.Meets C (fun _ value => post value) past)
    (hanswer : ∀ past op, C.rely past op (answer op)) : post (p.eval answer) := by
  induction p generalizing past with
  | ret value => exact hp
  | call op next ih => exact ih (answer op) (hp.2 (answer op) (hanswer past op))

/-- The final history of a program extends the one it was started with. -/
theorem Meets.extends (hp : p.Meets C post past) :
    p.Meets C (fun later value => past <+: later ∧ post later value) past := by
  induction p generalizing past with
  | ret value => exact ⟨List.prefix_rfl, hp⟩
  | call op next ih =>
    refine ⟨hp.1, fun ans hans => (ih ans (hp.2 ans hans)).mono ?_⟩
    rintro later value ⟨hlater, hpost⟩
    exact ⟨(List.prefix_append _ _).trans hlater, hpost⟩

/-- The answers determine how the program goes on: it adds `later` to its history and returns the
value. -/
def Yields (p : Program Op Ans α) (C : Contract Op Ans) (past later : List (Event Op Ans))
    (value : α) : Prop :=
  ∀ post : List (Event Op Ans) → α → Prop, p.Meets C post past ↔ post (past ++ later) value

theorem yields_pure : (pure value : Program Op Ans α).Yields C past [] value := by
  intro post
  rw [List.append_nil]
  exact meets_pure

theorem yields_perform {ans : Ans op} (hguar : C.guar past op)
    (hrely : ∀ ans', C.rely past op ans' ↔ ans' = ans) :
    (Program.perform op).Yields C past [⟨op, ans⟩] ans := by
  intro post
  rw [meets_perform, and_iff_right hguar]
  simp only [hrely, forall_eq]

theorem Yields.bind {later last : List (Event Op Ans)} {result : β}
    (hp : p.Yields C past later value) (hf : (f value).Yields C (past ++ later) last result) :
    (p >>= f).Yields C past (later ++ last) result := by
  intro post
  rw [meets_bind, hp, hf, List.append_assoc]

/-! ## Frames -/

/-- Every operation the program can call satisfies `allowed`. -/
def Only (allowed : Op → Prop) : Program Op Ans α → Prop
  | .ret _ => True
  | .call op next => allowed op ∧ ∀ ans, (next ans).Only allowed

variable {allowed : Op → Prop}

@[simp]
theorem only_pure : (pure value : Program Op Ans α).Only allowed :=
  trivial

@[simp]
theorem only_call {next : Ans op → Program Op Ans α} :
    (Program.call op next).Only allowed ↔ allowed op ∧ ∀ ans, (next ans).Only allowed :=
  Iff.rfl

@[simp]
theorem only_perform : (perform op : Program Op Ans (Ans op)).Only allowed ↔ allowed op :=
  ⟨And.left, fun h => ⟨h, fun _ => trivial⟩⟩

theorem only_of_forall (hall : ∀ op, allowed op) (p : Program Op Ans α) : p.Only allowed := by
  induction p with
  | ret value => trivial
  | call op next ih => exact ⟨hall op, ih⟩

theorem Only.mono {allowed' : Op → Prop} (hp : p.Only allowed)
    (himp : ∀ op, allowed op → allowed' op) : p.Only allowed' := by
  induction p with
  | ret value => trivial
  | call op next ih => exact ⟨himp op hp.1, fun ans => ih ans (hp.2 ans)⟩

theorem Only.bind (hp : p.Only allowed) (hf : ∀ value, (f value).Only allowed) :
    (p >>= f).Only allowed := by
  induction p with
  | ret value => exact hf value
  | call op next ih => exact ⟨hp.1, fun ans => ih ans (hp.2 ans)⟩

theorem Only.perform {f : Ans op → Program Op Ans β} (hop : allowed op)
    (hf : ∀ ans, (f ans).Only allowed) : (Program.perform op >>= f).Only allowed :=
  Only.bind (only_perform.2 hop) hf

theorem Only.lift {Op' : Type} {Ans' : Op' → Type} {f : Op → Op'}
    {g : (op : Op) → Ans' (f op) → Ans op} {allowed : Op' → Prop}
    (hp : p.Only fun op => allowed (f op)) : (p.lift f g).Only allowed := by
  induction p with
  | ret value => trivial
  | call op next ih => exact ⟨hp.1, fun ans => ih (g op ans) (hp.2 (g op ans))⟩

/-- A subroutine whose operations are always permitted keeps every property of the history
that those operations preserve. -/
theorem Only.meets {frame : List (Event Op Ans) → Prop} (hp : p.Only allowed) (hpast : frame past)
    (hguar : ∀ h op, allowed op → frame h → C.guar h op)
    (hframe : ∀ h op ans, allowed op → frame h → frame (h ++ [⟨op, ans⟩])) :
    p.Meets C (fun later _ => frame later) past := by
  induction p generalizing past with
  | ret value => exact hpast
  | call op next ih =>
    exact ⟨hguar _ _ hp.1 hpast, fun ans _ => ih ans (hp.2 ans) (hframe _ _ _ hp.1 hpast)⟩

/-- A subroutine whose operations are always permitted keeps what is already in the history. -/
theorem Only.meets_subset (hp : p.Only allowed) (hguar : ∀ h op, allowed op → C.guar h op) :
    p.Meets C (fun later _ => past ⊆ later) past :=
  hp.meets (List.Subset.refl _) (fun h op hop _ => hguar h op hop) fun _ _ _ _ hframe =>
    List.Subset.trans hframe (List.subset_append_left _ _)

/-- A program that meets a contract meets another one, if what is known about the history makes the
answers of the second contract answers of the first, and the calls of the first contract calls of
the second. -/
theorem Meets.refine {C' : Contract Op Ans} (hp : p.Meets C post past)
    (known : List (Event Op Ans) → Prop) (hpast : known past)
    (hrely : ∀ h op ans, known h → C'.rely h op ans → C.rely h op ans)
    (hguar : ∀ h op, known h → C.guar h op → C'.guar h op)
    (hknown : ∀ h op ans, known h → C.guar h op → C'.rely h op ans → known (h ++ [⟨op, ans⟩])) :
    p.Meets C' (fun later value => known later ∧ post later value) past := by
  induction p generalizing past with
  | ret value => exact ⟨hpast, hp⟩
  | call op next ih =>
    refine ⟨hguar past op hpast hp.1, fun ans hans => ?_⟩
    exact ih ans (hp.2 ans (hrely past op ans hpast hans)) (hknown past op ans hpast hp.1 hans)

/-- What a program calls under a contract that relies on nothing, it calls in any case. -/
theorem Meets.only (hp : p.Meets ⟨fun _ _ _ => True, fun _ op => allowed op⟩ post past) :
    p.Only allowed := by
  induction p generalizing past with
  | ret value => trivial
  | call op next ih => exact ⟨hp.1, fun ans => ih ans (hp.2 ans trivial)⟩

-- From here on programs are taken apart by the rules above, never by computing with a program.
attribute [irreducible] Meets Only

end Program

/-! ## Programs that run alone

A program that nobody interrupts takes its world from one call to the next. `Executes` is the
relation between the worlds before and after, and `Secures` the weakest precondition for it: the
rules `secures_pure`, `secures_perform` and `secures_bind` take a program apart, and `Only.secures`
is the frame rule for subroutines that cannot break an invariant.

A `Service` performs one request after the other. `Served` are the worlds it gets to, with the
requests and their results so far, where a condition may restrict which requests arrive and how
calls are answered. What every request keeps holds after any sequence of them (`Served.invariant`).
-/

variable {World Input Kind Out α β : Type}

namespace Program

/-- How a call in a world may be answered, and the worlds it may leave. -/
abbrev Answers (Op : Type) (Ans : Op → Type) (World : Type) :=
  World → (op : Op) → Ans op → World → Prop

variable {answers : Answers Op Ans World}

/-- The program returns the value and leaves the last world. -/
inductive Executes (answers : Answers Op Ans World) : Program Op Ans α → World → α → World → Prop
  | ret {value : α} {w : World} : Executes answers (.ret value) w value w
  | call {op : Op} {next : Ans op → Program Op Ans α} {ans : Ans op} {w w' w'' : World}
      {value : α} :
      answers w op ans w' → Executes answers (next ans) w' value w'' →
        Executes answers (.call op next) w value w''

/-- Whatever the answers are, `post` holds when the program ends. -/
def Secures (answers : Answers Op Ans World) :
    Program Op Ans α → (α → World → Prop) → World → Prop
  | .ret value, post, w => post value w
  | .call op next, post, w =>
    ∀ ans w', answers w op ans w' → (next ans).Secures answers post w'

variable {p : Program Op Ans α} {post : α → World → Prop} {w w' : World} {value : α}

theorem Secures.executes (hp : p.Secures answers post w) (h : Executes answers p w value w') :
    post value w' := by
  induction h with
  | ret => exact hp
  | call hans _ ih => exact ih (hp _ _ hans)

theorem secures_pure : (pure value : Program Op Ans α).Secures answers post w ↔ post value w :=
  Iff.rfl

theorem secures_perform {op : Op} {post : Ans op → World → Prop} :
    (perform op : Program Op Ans (Ans op)).Secures answers post w ↔
      ∀ ans w', answers w op ans w' → post ans w' :=
  Iff.rfl

theorem secures_bind {f : α → Program Op Ans β} {post : β → World → Prop} :
    (p >>= f).Secures answers post w ↔
      p.Secures answers (fun value later => (f value).Secures answers post later) w := by
  induction p generalizing w with
  | ret value => rfl
  | call op next ih =>
    rw [call_bind]
    exact forall_congr' fun ans => forall_congr' fun w' => imp_congr_right fun _ => ih ans

theorem Secures.mono {post' : α → World → Prop} (hp : p.Secures answers post w)
    (himp : ∀ value later, post value later → post' value later) :
    p.Secures answers post' w := by
  induction p generalizing w with
  | ret value => exact himp _ _ hp
  | call op next ih => exact fun ans w' hans => ih ans (hp ans w' hans)

theorem Secures.bind {f : α → Program Op Ans β} {post' : β → World → Prop}
    (hp : p.Secures answers post w)
    (hf : ∀ value later, post value later → (f value).Secures answers post' later) :
    (p >>= f).Secures answers post' w :=
  secures_bind.2 (hp.mono hf)

theorem Secures.perform {op : Op} {f : Ans op → Program Op Ans β} {post : β → World → Prop}
    (hf : ∀ ans later, answers w op ans later → (f ans).Secures answers post later) :
    (Program.perform op >>= f).Secures answers post w :=
  secures_bind.2 (secures_perform.2 hf)

theorem Only.secures {allowed : Op → Prop} {inv : World → Prop} (hp : p.Only allowed)
    (hop : ∀ w op ans w', allowed op → inv w → answers w op ans w' → inv w') (hw : inv w) :
    p.Secures answers (fun _ later => inv later) w := by
  induction p generalizing w with
  | ret value => exact hw
  | call op next ih =>
    obtain ⟨hallowed, hnext⟩ := only_call.1 hp
    exact fun ans w' hans => ih ans (hnext ans) (hop w op ans w' hallowed hw hans)

/-- A program that meets a contract keeps what every permitted call keeps. -/
theorem Meets.secures {C : Contract Op Ans} {done : List (Event Op Ans) → α → Prop}
    {inv : List (Event Op Ans) → World → Prop} {past : List (Event Op Ans)}
    (hp : p.Meets C done past)
    (hrely : ∀ past op ans, C.rely past op ans)
    (hop : ∀ past w op ans w', C.guar past op → inv past w → answers w op ans w' →
      inv (past ++ [⟨op, ans⟩]) w') (hw : inv past w) :
    p.Secures answers (fun _ later => ∃ last, inv last later) w := by
  induction p generalizing past w with
  | ret value => exact ⟨past, hw⟩
  | call op next ih =>
    obtain ⟨hguar, hnext⟩ := meets_call.1 hp
    intro ans w' hans
    exact ih ans (hnext ans (hrely past op ans)) (hop past w op ans w' hguar hw hans)

/-- Run a program with the inputs for its calls. -/
def execute (step : Input → World → (op : Op) → Option (Ans op × World)) :
    Program Op Ans α → List Input → World → Option (α × World)
  | .ret value, _, w => some (value, w)
  | .call _ _, [], _ => none
  | .call op next, input :: rest, w =>
    match step input w op with
    | some (ans, w') => (next ans).execute step rest w'
    | none => none

theorem executes_of_execute {step : Input → World → (op : Op) → Option (Ans op × World)}
    (hstep : ∀ input w op ans w', step input w op = some (ans, w') → answers w op ans w')
    {inputs : List Input} (h : p.execute step inputs w = some (value, w')) :
    Executes answers p w value w' := by
  induction p generalizing inputs w with
  | ret result =>
    cases h
    exact .ret
  | call op next ih =>
    cases inputs with
    | nil => cases h
    | cons input rest => ?_
    rw [execute] at h
    cases hans : step input w op with
    | none =>
      rw [hans] at h
      cases h
    | some answer =>
      rw [hans] at h
      exact .call (hstep input w op _ _ hans) (ih _ h)

attribute [irreducible] Secures

end Program

open Program

/-! ### One request after the other -/

/-- Requests with their programs, and how the world answers calls, given what is decided outside. -/
structure Service (Op : Type) (Ans : Op → Type) (Kind Out World Input : Type) where
  program : Kind → Program Op Ans Out
  step : Input → World → (op : Op) → Option (Ans op × World)

namespace Service

/-- Which requests may arrive, and how their calls may be answered, after the requests so far. -/
structure Condition (Op Kind Out World Input : Type) where
  starts : List (Kind × Out) → World → Kind → Bool
  admits : List (Kind × Out) → Kind → Input → World → Op → Bool

/-- No restriction. -/
def Condition.any : Condition Op Kind Out World Input where
  starts _ _ _ := true
  admits _ _ _ _ _ := true

variable (S : Service Op Ans Kind Out World Input) (C : Condition Op Kind Out World Input)

/-- The step under a condition. -/
def restricted (done : List (Kind × Out)) (kind : Kind) (input : Input) (w : World) (op : Op) :
    Option (Ans op × World) :=
  if C.admits done kind input w op then S.step input w op else none

/-- The answers to the calls of a request. -/
def answers (done : List (Kind × Out)) (kind : Kind) : Answers Op Ans World :=
  fun w op ans w' => ∃ input, C.admits done kind input w op = true ∧
    S.step input w op = some (ans, w')

/-- The worlds after a sequence of requests, with the results of the requests. -/
inductive Served (init : World → Prop) : List (Kind × Out) → World → Prop
  | init {w : World} : init w → Served init [] w
  | serve {done : List (Kind × Out)} {w w' : World} {kind : Kind} {out : Out} :
      Served init done w → C.starts done w kind = true →
        Executes (S.answers C done kind) (S.program kind) w out w' →
          Served init (done ++ [(kind, out)]) w'

variable {S C}

theorem Served.invariant {init : World → Prop} {done : List (Kind × Out)} {w : World}
    (h : S.Served C init done w) (inv : List (Kind × Out) → World → Prop)
    (hinit : ∀ w, init w → inv [] w)
    (hserve : ∀ done w kind, inv done w → C.starts done w kind = true →
      (S.program kind).Secures (S.answers C done kind)
        (fun out later => inv (done ++ [(kind, out)]) later) w) : inv done w := by
  induction h with
  | init hw => exact hinit _ hw
  | serve _ hstart hexec ih => exact (hserve _ _ _ ih hstart).executes hexec

variable (S C)

/-- Serve requests with the inputs for their calls. -/
def run : List (Kind × Out) → World → List (Kind × List Input) →
    Option (List (Kind × Out) × World)
  | done, w, [] => some (done, w)
  | done, w, (kind, inputs) :: rest =>
    if C.starts done w kind then
      match (S.program kind).execute (S.restricted C done kind) inputs w with
      | some (out, w') => run (done ++ [(kind, out)]) w' rest
      | none => none
    else none

variable {S C}

theorem served_of_run {init : World → Prop} {done done' : List (Kind × Out)} {w w' : World}
    {requests : List (Kind × List Input)} (hw : S.Served C init done w)
    (h : S.run C done w requests = some (done', w')) : S.Served C init done' w' := by
  induction requests generalizing done w with
  | nil =>
    cases h
    exact hw
  | cons request rest ih =>
    obtain ⟨kind, inputs⟩ := request
    rw [run] at h
    split at h
    · rename_i hstart
      cases hexec : (S.program kind).execute (S.restricted C done kind) inputs w with
      | none =>
        rw [hexec] at h
        cases h
      | some result => ?_
      rw [hexec] at h
      refine ih (.serve hw hstart (executes_of_execute ?_ hexec)) h
      intro input w op ans w' hstep
      rw [restricted] at hstep
      split at hstep
      · rename_i hadmits
        exact ⟨input, hadmits, hstep⟩
      · cases hstep
    · cases h

end Service

end OpenNebulaCSI.Concurrency

import OcFleet.Foundation.FaultPrograms
import OcFleet.Foundation.Runs

/-!
Programs of several workers over one store. Between two operations of a program the
others may act, so what a program has learned is worth something only as far as it
survives them. A discipline says which steps the surroundings may take, what every
program keeps to, and in which relation a store stands to the later ones; a program
keeps the discipline when each of its operations does, whatever happened before it.
-/

namespace OcFleet.Foundation

section

variable {Op : Type} {Ans : Op → Type} {Store Job Input Res : Type}

/-- A store and what each worker has still to do. -/
structure Crew (Op : Type) (Ans : Op → Type) (Store Res : Type) where
  store : Store
  program : Nat → Option (Prog Op Ans Res)

inductive CrewMove (Job Input : Type) where
  | launch (worker : Nat) (job : Job)
  | advance (worker : Nat) (input : Input)

variable (serve : Store → (op : Op) → Input → Ans op × Store) (body : Job → Prog Op Ans Res)

/-- A worker may be launched at any time, also in the middle of its last job. -/
def crewStep (crew : Crew Op Ans Store Res) : CrewMove Job Input → Crew Op Ans Store Res
  | .launch worker job =>
      { crew with program := Function.update crew.program worker (some (body job)) }
  | .advance worker input =>
      match crew.program worker with
      | some (.call op next) =>
          ⟨(serve crew.store op input).2,
            Function.update crew.program worker (some (next (serve crew.store op input).1))⟩
      | some (.ret _) | none => crew

/-- The surroundings meet a condition on the store and the operation that a move serves. -/
def Crew.MoveMeets (Ok : Store → Op → Input → Prop) (crew : Crew Op Ans Store Res) :
    CrewMove Job Input → Prop
  | .launch _ _ => True
  | .advance worker input =>
      ∀ op next, crew.program worker = some (.call op next) → Ok crew.store op input

/-- Nobody has anything to do. -/
def Crew.idle (store : Store) : Crew Op Ans Store Res := ⟨store, fun _ => none⟩

section

variable {crew : Crew Op Ans Store Res}

/-- What the steps over a store keep to. -/
structure Discipline where
  /-- What holds of every store. -/
  Inv : Store → Prop
  /-- A store and a later one. -/
  Later : Store → Store → Prop
  /-- What the surroundings keep to when an operation is served. -/
  Ok : Store → Op → Input → Prop
  /-- What the programs keep to when they ask for an operation. -/
  Asks : Store → Op → Prop
  refl : ∀ s, Later s s
  trans : ∀ {a b c}, Later a b → Later b c → Later a c
  served : ∀ {s op input}, Inv s → Ok s op input → Asks s op →
    Inv (serve s op input).2 ∧ Later s (serve s op input).2

variable {serve} (d : Discipline serve)

/-- Each operation of the program keeps the discipline in whatever store it is served,
and what the program returns meets `Post` from then on. -/
def Prog.Keeps {α : Type} (Post : α → Store → Prop) : Prog Op Ans α → Store → Prop
  | .ret a, s => ∀ s', d.Later s s' → d.Inv s' → Post a s'
  | .call op next, s => ∀ s' input, d.Later s s' → d.Inv s' → d.Ok s' op input →
      d.Asks s' op ∧ Keeps Post (next (serve s' op input).1) (serve s' op input).2

variable {d} {α β : Type}

theorem Prog.Keeps.later {Post : α → Store → Prop} {p : Prog Op Ans α} {s s' : Store}
    (h : p.Keeps d Post s) (hLater : d.Later s s') : p.Keeps d Post s' := by
  cases p with
  | ret a => exact fun s'' hRest hInv => h s'' (d.trans hLater hRest) hInv
  | call op next =>
    exact fun s'' input hRest hInv hOk => h s'' input (d.trans hLater hRest) hInv hOk

variable {p : Prog Op Ans α} {s : Store} {moves : List (CrewMove Job Input)}

theorem Prog.Keeps.bind {Mid : α → Store → Prop} {Post : β → Store → Prop}
    {f : α → Prog Op Ans β} (hp : p.Keeps d Mid s)
    (hf : ∀ a s', d.Later s s' → d.Inv s' → Mid a s' → (f a).Keeps d Post s') :
    (p >>= f).Keeps d Post s := by
  induction p generalizing s with
  | ret a =>
    -- The store may have moved on since, so the rest is taken up where it is asked for.
    have hRest : ∀ s', d.Later s s' → d.Inv s' → (f a).Keeps d Post s' :=
      fun s' hLater hInv => hf a s' hLater hInv (hp s' hLater hInv)
    show (f a).Keeps d Post s
    cases hfa : f a with
    | ret b =>
      intro s' hLater hInv
      have hHere := hRest s' hLater hInv
      rw [hfa] at hHere
      exact hHere s' (d.refl s') hInv
    | call op next =>
      intro s' input hLater hInv hOk
      have hHere := hRest s' hLater hInv
      rw [hfa] at hHere
      exact hHere s' input (d.refl s') hInv hOk
  | call op next ih =>
    intro s' input hLater hInv hOk
    obtain ⟨hAsks, hNext⟩ := hp s' input hLater hInv hOk
    have hServed := d.served hInv hOk hAsks
    refine ⟨hAsks, ih _ hNext ?_⟩
    exact fun a s'' hRest => hf a s'' (d.trans hLater (d.trans hServed.2 hRest))

theorem Prog.Keeps.imp {Post Post' : α → Store → Prop}
    (h : p.Keeps d Post s) (hPost : ∀ a s', d.Later s s' → d.Inv s' → Post a s' → Post' a s') :
    p.Keeps d Post' s := by
  induction p generalizing s with
  | ret a => exact fun s' hLater hInv => hPost a s' hLater hInv (h s' hLater hInv)
  | call op next ih =>
    intro s' input hLater hInv hOk
    obtain ⟨hAsks, hNext⟩ := h s' input hLater hInv hOk
    have hServed := d.served hInv hOk hAsks
    exact ⟨hAsks, ih _ hNext (fun a s'' hRest =>
      hPost a s'' (d.trans hLater (d.trans hServed.2 hRest)))⟩

/-- The same of programs that stop at an error, of which nothing is said. -/
def FaultProg.Keeps {ε : Type} (d : Discipline serve) (Post : α → Store → Prop)
    (p : FaultProg Op Ans ε α) (s : Store) : Prop :=
  Prog.Keeps d (fun (result : Except ε α) s' => ∀ a, result = .ok a → Post a s')
    (ExceptT.run p) s

section

variable {ε : Type} {Post : α → Store → Prop} {s : Store}
variable {p : FaultProg Op Ans ε α}

theorem FaultProg.keeps_pure {a : α} (h : ∀ s', d.Later s s' → d.Inv s' → Post a s') :
    (pure a : FaultProg Op Ans ε α).Keeps d Post s := by
  intro s' hLater hInv b hb
  cases hb
  exact h s' hLater hInv

theorem FaultProg.keeps_ofExcept {result : Except ε α}
    (h : ∀ a, result = .ok a → ∀ s', d.Later s s' → d.Inv s' → Post a s') :
    (FaultProg.ofExcept result : FaultProg Op Ans ε α).Keeps d Post s :=
  fun s' hLater hInv a ha => h a ha s' hLater hInv

theorem FaultProg.keeps_ask {op : Op} {Post : Ans op → Store → Prop}
    (h : ∀ s' input, d.Later s s' → d.Inv s' → d.Ok s' op input → d.Asks s' op ∧
      ∀ s'', d.Later (serve s' op input).2 s'' → d.Inv s'' →
        Post (serve s' op input).1 s'') :
    (FaultProg.ask op : FaultProg Op Ans ε (Ans op)).Keeps d Post s := by
  intro s' input hLater hInv hOk
  obtain ⟨hAsks, hPost⟩ := h s' input hLater hInv hOk
  refine ⟨hAsks, ?_⟩
  intro s'' hRest hInv' a ha
  cases ha
  exact hPost s'' hRest hInv'

theorem FaultProg.Keeps.bind {Mid : α → Store → Prop} {Post : β → Store → Prop}
    {f : α → FaultProg Op Ans ε β} (hp : p.Keeps d Mid s)
    (hf : ∀ a s', d.Later s s' → d.Inv s' → Mid a s' → (f a).Keeps d Post s') :
    (p >>= f).Keeps d Post s := by
  refine Prog.Keeps.bind hp ?_
  intro result s' hLater hInv hMid
  cases result with
  | error e => exact fun s'' _ _ b hb => by cases hb
  | ok a => exact hf a s' hLater hInv (hMid a rfl)

theorem FaultProg.Keeps.imp {Post' : α → Store → Prop} (h : p.Keeps d Post s)
    (hPost : ∀ a s', d.Later s s' → d.Inv s' → Post a s' → Post' a s') : p.Keeps d Post' s :=
  Prog.Keeps.imp h (fun _ s' hLater hInv hResult a ha => hPost a s' hLater hInv (hResult a ha))

theorem FaultProg.Keeps.run (h : p.Keeps d Post s) :
    Prog.Keeps d (fun _ _ => True) (ExceptT.run p) s :=
  Prog.Keeps.imp h (fun _ _ _ _ _ => trivial)

end

-- Programs are taken apart by the rules above, not by evaluating them.
attribute [irreducible] FaultProg.Keeps

/-- The store meets the invariant and every program under way keeps the discipline. -/
structure Crew.Sound (d : Discipline serve) (crew : Crew Op Ans Store Res) : Prop where
  inv : d.Inv crew.store
  keeps : ∀ worker p, crew.program worker = some p → p.Keeps d (fun _ _ => True) crew.store

theorem Crew.idle_sound {store : Store} (h : d.Inv store) :
    (Crew.idle store : Crew Op Ans Store Res).Sound d :=
  ⟨h, fun _ _ hNone => by cases hNone⟩

/-- Where nothing is expected of the programs, each of them keeps the discipline. -/
theorem Prog.keeps_of_asks (hAsks : ∀ s op, d.Asks s op) (p : Prog Op Ans α) (s : Store) :
    p.Keeps d (fun _ _ => True) s := by
  induction p generalizing s with
  | ret a => exact fun _ _ _ => trivial
  | call op next ih => exact fun s' input _ _ _ => ⟨hAsks s' op, ih _ _⟩

variable {body}

theorem crewStep_kept (hBody : ∀ job s, d.Inv s → (body job).Keeps d (fun _ _ => True) s)
    {move : CrewMove Job Input} (hOk : crew.MoveMeets d.Ok move) (h : crew.Sound d) :
    (crewStep serve body crew move).Sound d ∧
      d.Later crew.store (crewStep serve body crew move).store := by
  cases move with
  | launch worker job =>
    refine ⟨⟨h.inv, fun other p hp => ?_⟩, d.refl _⟩
    have hUpdate : Function.update crew.program worker (some (body job)) other = some p := hp
    by_cases hOther : other = worker
    · rw [hOther, Function.update_self] at hUpdate
      cases hUpdate
      exact hBody job _ h.inv
    · rw [Function.update_of_ne hOther] at hUpdate
      exact h.keeps other p hUpdate
  | advance worker input =>
    cases hProgram : crew.program worker with
    | none =>
      simp only [crewStep, hProgram]
      exact ⟨h, d.refl _⟩
    | some program =>
      cases program with
      | ret res =>
        simp only [crewStep, hProgram]
        exact ⟨h, d.refl _⟩
      | call op next =>
        have hHere := hOk op next hProgram
        obtain ⟨hAsks, hNext⟩ :=
          h.keeps worker _ hProgram crew.store input (d.refl _) h.inv hHere
        obtain ⟨hInv, hLater⟩ := d.served h.inv hHere hAsks
        simp only [crewStep, hProgram]
        refine ⟨⟨hInv, fun other p hp => ?_⟩, hLater⟩
        have hUpdate : Function.update crew.program worker
            (some (next (serve crew.store op input).1)) other = some p := hp
        by_cases hOther : other = worker
        · rw [hOther, Function.update_self] at hUpdate
          cases hUpdate
          exact hNext
        · rw [Function.update_of_ne hOther] at hUpdate
          exact (h.keeps other p hUpdate).later hLater

/-- Whatever the order in which the workers act, the crew stays sound as long as the
surroundings keep to the discipline, and the store it starts from stands in the relation to
every later one. -/
theorem crew_kept (hBody : ∀ job s, d.Inv s → (body job).Keeps d (fun _ _ => True) s)
    (hCrew : crew.Sound d)
    (hOk : MeetsAlong (crewStep serve body) (fun crew move => crew.MoveMeets d.Ok move) crew
      moves) :
    (run (crewStep serve body) crew moves).Sound d ∧
      d.Later crew.store (run (crewStep serve body) crew moves).store := by
  induction moves generalizing crew with
  | nil => exact ⟨hCrew, d.refl _⟩
  | cons move moves ih =>
    obtain ⟨hSound, hLater⟩ := crewStep_kept hBody hOk.1 hCrew
    obtain ⟨hEnd, hRest⟩ := ih hSound hOk.2
    exact ⟨hEnd, d.trans hLater hRest⟩

end

section

variable {α : Type}

/-- What a program does by itself, in whatever stores its operations are served: the store
before and after each of them, and the result. -/
inductive Prog.Acts (serve : Store → (op : Op) → Input → Ans op × Store) :
    Prog Op Ans α → List (Store × Store) → α → Prop where
  | ret (a : α) : Acts serve (.ret a) [] a
  | call {s : Store} {op : Op} {next : Ans op → Prog Op Ans α} {input : Input}
      {steps : List (Store × Store)} {a : α}
      (hRest : Acts serve (next (serve s op input).1) steps a) :
      Acts serve (.call op next) ((s, (serve s op input).2) :: steps) a

variable {serve} {steps : List (Store × Store)} {a b : α}

theorem Prog.acts_ret (h : Prog.Acts serve (.ret a) steps b) : steps = [] ∧ b = a := by
  cases h
  exact ⟨rfl, rfl⟩

theorem Prog.acts_call {op : Op} {next : Ans op → Prog Op Ans α}
    (h : Prog.Acts serve (.call op next) steps b) :
    ∃ s input rest, steps = (s, (serve s op input).2) :: rest ∧
      Prog.Acts serve (next (serve s op input).1) rest b := by
  cases h with
  | call hRest => exact ⟨_, _, _, rfl, hRest⟩

end

end

end OcFleet.Foundation

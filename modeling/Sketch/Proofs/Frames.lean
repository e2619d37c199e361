import Sketch.Proofs.Lasting

/-! Variables as frames. The variables of a session are one flat list, in which a binding overwrites values and keeps
those that it hides until it is undone. Whoever asks them cannot tell them from an environment with a global frame and
a stack of inner ones, where nothing is ever overwritten by a binding. -/
namespace Sketch

inductive Query where
  | define (name : String) (value : Float)
  | assign (name : String) (value : Float)
  | get (name : String)
  | resolve (token : String)
  | contains (name : String)
  | bind (pairs : List (String × Float))
  | unbind

inductive Reply where
  | done
  | value (value : Float)
  | presence (present : Bool)
  | refused (cause : Cause)

def Reply.ofValue : Except Cause Float → Reply
  | .ok found => .value found
  | .error cause => .refused cause

/-- The reply to a change, and what is left after it; a refused change leaves everything as it is. -/
def Reply.ofChange {σ : Type} (before : σ) : Except Cause σ → Reply × σ
  | .ok after => (.done, after)
  | .error cause => (.refused cause, before)

def replies {σ : Type} (ask : Query → σ → Reply × σ) : List Query → σ → List Reply
  | [], _ => []
  | query :: queries, s => (ask query s).1 :: replies ask queries (ask query s).2

/-- Variables and what the bindings under way have hidden, innermost first. -/
structure Store where
  vars : Variables := {}
  hidden : List Hidden := []

namespace Store

def bind (store : Store) (pairs : List (String × Float)) : Store :=
  ⟨store.vars.bind (.ofPairs pairs), store.vars.hide (.ofPairs pairs) :: store.hidden⟩

def unbind (store : Store) : Store :=
  match store.hidden with
  | [] => store
  | hidden :: rest => ⟨store.vars.restore hidden, rest⟩

def ask (query : Query) (store : Store) : Reply × Store :=
  match query with
  | .define name value => Reply.ofChange store ((store.vars.define name value).map ({ store with vars := · }))
  | .assign name value => Reply.ofChange store ((store.vars.assign name value).map ({ store with vars := · }))
  | .get name => (.ofValue (store.vars.get name), store)
  | .resolve token => (.ofValue (store.vars.resolve token), store)
  | .contains name => (.presence (store.vars.contains name), store)
  | .bind pairs => (.done, store.bind pairs)
  | .unbind => (.done, store.unbind)

end Store

abbrev Frame := String → Option Float

/-- The last pair counts where a name comes twice. -/
def Frame.ofPairs (pairs : List (String × Float)) : Frame :=
  fun name => pairs.reverse.lookup name

/-- A global frame and the frames inside it, innermost first. -/
structure Environment where
  globals : Frame := fun _ => none
  frames : List Frame := []

namespace Environment

def lookup (env : Environment) (name : String) : Option Float :=
  (env.frames.findSome? (· name)).or (env.globals name)

def change (globals : Frame) (name : String) (value : Float) : List Frame → Environment
  | [] => ⟨Function.update globals name (some value), []⟩
  | frame :: frames =>
    if (frame name).isSome then ⟨globals, Function.update frame name (some value) :: frames⟩
    else
      let outer := change globals name value frames
      ⟨outer.globals, frame :: outer.frames⟩

def define (env : Environment) (name : String) (value : Float) : Except Cause Environment :=
  if (env.lookup name).isSome then .error (.duplicateVariable name)
  else .ok { env with globals := Function.update env.globals name (some value) }

def assign (env : Environment) (name : String) (value : Float) : Except Cause Environment :=
  if (env.lookup name).isSome then .ok (change env.globals name value env.frames)
  else .error (.undefinedVariable name)

def get (env : Environment) (name : String) : Except Cause Float :=
  (env.lookup name).elim (.error (.undefinedVariable name)) .ok

def resolve (env : Environment) (token : String) : Except Cause Float :=
  ((env.lookup token).or ((Numeral.ofText? token).map (·.value))).elim (.error (.invalidOperand token)) .ok

def ask (query : Query) (env : Environment) : Reply × Environment :=
  match query with
  | .define name value => Reply.ofChange env (env.define name value)
  | .assign name value => Reply.ofChange env (env.assign name value)
  | .get name => (.ofValue (env.get name), env)
  | .resolve token => (.ofValue (env.resolve token), env)
  | .contains name => (.presence (env.lookup name).isSome, env)
  | .bind pairs => (.done, { env with frames := .ofPairs pairs :: env.frames })
  | .unbind => (.done, { env with frames := env.frames.tail })

private theorem lookup_cons (globals frame : Frame) (frames : List Frame) (name : String) :
    lookup ⟨globals, frame :: frames⟩ name = (frame name).or (lookup ⟨globals, frames⟩ name) := by
  simp only [lookup, List.findSome?_cons]
  cases frame name <;> rfl

theorem lookup_define {env : Environment} {name : String} (free : env.lookup name = none) (value : Float)
    (key : String) : lookup { env with globals := Function.update env.globals name (some value) } key =
      if key = name then some value else env.lookup key := by
  have unframed := (Option.or_eq_none_iff.mp free).1
  by_cases same : key = name
  · subst key
    simp [lookup, unframed]
  · simp [lookup, same]

theorem lookup_change (globals : Frame) (frames : List Frame) (name key : String) (value : Float) :
    (change globals name value frames).lookup key =
      if key = name then some value else lookup ⟨globals, frames⟩ key := by
  induction frames with
  | nil => by_cases same : key = name <;> simp [change, lookup, same]
  | cons frame frames ih =>
    rw [change]
    split
    · rw [lookup_cons, lookup_cons]
      by_cases same : key = name <;> simp [same]
    · rename_i missing
      rw [lookup_cons, lookup_cons, ih]
      by_cases same : key = name
      · subst key
        simp [Option.not_isSome_iff_eq_none.mp missing]
      · simp [same]

end Environment

def Environment.saved (env : Environment) (names : List String) : Hidden :=
  names.map fun name => (name, env.lookup name)

/-- Each binding has hidden what was seen of the names of its frame from outside that frame. -/
inductive Hides (globals : Frame) : List Hidden → List Frame → Prop
  | nil : Hides globals [] []
  | cons {row hidden frame frames} (names : List String) (bound : ∀ name, name ∈ names ↔ (frame name).isSome)
      (saved : row = Environment.saved ⟨globals, frames⟩ names) (outer : Hides globals hidden frames) :
      Hides globals (row :: hidden) (frame :: frames)

private theorem Environment.saved_congr {env other : Environment} {names : List String}
    (same : ∀ name ∈ names, other.lookup name = env.lookup name) : env.saved names = other.saved names := by
  apply List.map_congr_left
  intro name inside
  rw [same name inside]

namespace Hides
variable {globals : Frame} {hidden : List Hidden} {frames : List Frame} {name : String}

private theorem define (hides : Hides globals hidden frames) (free : Environment.lookup ⟨globals, frames⟩ name = none)
    (value : Float) : Hides (Function.update globals name (some value)) hidden frames := by
  induction hides with
  | nil => exact .nil
  | @cons row hidden frame frames names bound saved outer ih =>
    rw [Environment.lookup_cons, Option.or_eq_none_iff] at free
    apply Hides.cons names bound _ (ih free.2)
    rw [saved]
    apply Environment.saved_congr
    intro key inside
    -- The frame does not hold the new name, so it has not hidden it either.
    have other : key ≠ name := by
      rintro rfl
      simp [bound, free.1] at inside
    exact (Environment.lookup_define free.2 value key).trans (if_neg other)

private theorem change (hides : Hides globals hidden frames) (name : String) (value : Float) :
    Hides (Environment.change globals name value frames).globals hidden
      (Environment.change globals name value frames).frames := by
  induction hides with
  | nil => exact .nil
  | @cons row hidden frame frames names bound saved outer ih =>
    rw [Environment.change]
    split
    -- The frame takes the change, and nothing outside it is different.
    · rename_i held
      apply Hides.cons names _ saved outer
      intro key
      rw [bound]
      by_cases same : key = name
      · simp [same, held]
      · simp [same]
    · rename_i missing
      apply Hides.cons names bound _ ih
      rw [saved]
      apply Environment.saved_congr
      intro key inside
      have other : key ≠ name := by
        rintro rfl
        exact missing ((bound key).mp inside)
      exact (Environment.lookup_change globals frames name key value).trans (if_neg other)

end Hides

namespace Variables

private theorem get?_put_all (pairs : List (String × Float)) (vars : Variables) (key : String) :
    (pairs.foldl (fun vars pair => vars.put pair.1 pair.2) vars).get? key =
      (Frame.ofPairs pairs key).or (vars.get? key) := by
  induction pairs generalizing vars with
  | nil => rfl
  | cons pair pairs ih =>
    have last : Frame.ofPairs (pair :: pairs) key =
        (Frame.ofPairs pairs key).or (if key = pair.1 then some pair.2 else none) := by
      rw [Frame.ofPairs, Frame.ofPairs, List.reverse_cons, List.lookup_append]
      by_cases same : key = pair.1
      · simp [List.lookup, same]
      · simp [List.lookup, beq_false_of_ne same, same]
    rw [List.foldl_cons, ih, get?_put, last, Option.or_assoc]
    by_cases same : key = pair.1 <;> simp [same]

theorem get?_ofPairs (pairs : List (String × Float)) (key : String) :
    (ofPairs pairs).get? key = Frame.ofPairs pairs key :=
  (get?_put_all pairs {} key).trans (Option.or_none)

private theorem nodup_put (vars : Variables) (distinct : vars.names.Nodup) (name : String) (value : Float) :
    (vars.put name value).names.Nodup := by
  rw [names_put]
  split
  · exact distinct
  · rename_i absent
    exact List.nodup_append_comm.mp (List.nodup_cons.mpr ⟨absent, distinct⟩)

private theorem nodup_ofPairs (pairs : List (String × Float)) : (ofPairs pairs).names.Nodup := by
  unfold ofPairs
  apply List.foldlRecOn (motive := fun vars : Variables => vars.names.Nodup)
  · exact List.nodup_nil
  · intro vars distinct pair _
    exact vars.nodup_put distinct pair.1 pair.2

theorem get?_bind_distinct {bindings : Variables} (distinct : bindings.names.Nodup) (vars : Variables) (key : String) :
    (vars.bind bindings).get? key = (bindings.get? key).or (vars.get? key) := by
  obtain ⟨entries⟩ := bindings
  induction entries generalizing vars with
  | nil => rfl
  | cons entry rest ih =>
    have apart := List.nodup_cons.mp distinct
    have first : vars.bind ⟨entry :: rest⟩ = (vars.put entry.1 entry.2).bind ⟨rest⟩ := rfl
    rw [first, ih _ apart.2, get?_put]
    -- Names are different, so no later entry overwrites this one.
    by_cases same : key = entry.1
    · have absent : get? ⟨rest⟩ key = none := by
        rw [same, ← Option.not_isSome_iff_eq_none]
        exact mt contains_iff_mem_names.mp apart.1
      rw [absent]
      simp [get?, valueIn, same]
    · simp [get?, valueIn, same, Ne.symm same]

end Variables

/-- The values that variables show are those of an environment, and so are those that they have hidden. -/
structure Store.Represents (store : Store) (env : Environment) : Prop where
  shown : ∀ name, store.vars.get? name = env.lookup name
  hidden : Hides env.globals store.hidden env.frames

namespace Store.Represents
variable {store : Store} {env : Environment}

private theorem contains (represents : store.Represents env) (name : String) :
    store.vars.contains name = (env.lookup name).isSome :=
  congrArg Option.isSome (represents.shown name)

private theorem defined (represents : store.Represents env) {name : String} (free : env.lookup name = none)
    (value : Float) :
    { store with vars := store.vars.put name value }.Represents
      { env with globals := Function.update env.globals name (some value) } := by
  constructor
  · intro key
    rw [Variables.get?_put, Environment.lookup_define free, represents.shown]
  · exact represents.hidden.define free value

private theorem changed (represents : store.Represents env) (name : String) (value : Float) :
    { store with vars := store.vars.put name value }.Represents (.change env.globals name value env.frames) := by
  constructor
  · intro key
    rw [Variables.get?_put, Environment.lookup_change, represents.shown]
  · exact represents.hidden.change name value

private theorem bound (represents : store.Represents env) (pairs : List (String × Float)) :
    (store.bind pairs).Represents { env with frames := .ofPairs pairs :: env.frames } := by
  constructor
  · intro key
    rw [Environment.lookup_cons]
    refine (Variables.get?_bind_distinct (Variables.nodup_ofPairs pairs) _ key).trans ?_
    rw [Variables.get?_ofPairs, represents.shown]
  · apply Hides.cons (Variables.ofPairs pairs).names _ _ represents.hidden
    · intro name
      rw [← Variables.contains_iff_mem_names, Variables.contains, Variables.get?_ofPairs]
    · apply List.map_congr_left
      intro name _
      rw [represents.shown]

private theorem unbound (represents : store.Represents env) :
    store.unbind.Represents { env with frames := env.frames.tail } := by
  obtain ⟨vars, hidden⟩ := store
  obtain ⟨globals, frames⟩ := env
  obtain ⟨shown, hides⟩ := represents
  cases hides with
  | nil => exact ⟨shown, .nil⟩
  | @cons row hidden frame frames names bound saved outer =>
    subst row
    refine ⟨fun key => ?_, outer⟩
    refine (Variables.get?_restore names _ vars key).trans ?_
    split
    · rfl
    · rename_i outside
      rw [bound, Option.not_isSome_iff_eq_none] at outside
      rw [shown, Environment.lookup_cons, outside, Option.none_or]
      rfl

theorem ask (represents : store.Represents env) (query : Query) :
    (store.ask query).1 = (env.ask query).1 ∧ (store.ask query).2.Represents (env.ask query).2 := by
  cases query with
  | define name value =>
    simp only [Store.ask, Environment.ask, Variables.define, Environment.define, represents.contains]
    split
    · exact ⟨rfl, represents⟩
    · rename_i free
      exact ⟨rfl, represents.defined (Option.not_isSome_iff_eq_none.mp free) value⟩
  | assign name value =>
    simp only [Store.ask, Environment.ask, Variables.assign, Environment.assign, represents.contains]
    split
    · exact ⟨rfl, represents.changed name value⟩
    · exact ⟨rfl, represents⟩
  | get name =>
    refine ⟨?_, represents⟩
    simp only [Store.ask, Environment.ask, Variables.get, Environment.get, represents.shown]
    cases env.lookup name <;> rfl
  | resolve token =>
    refine ⟨?_, represents⟩
    simp only [Store.ask, Environment.ask, Variables.resolve, Environment.resolve, represents.shown]
    cases env.lookup token with
    | some value => rfl
    | none => cases Numeral.ofText? token <;> rfl
  | contains name => exact ⟨congrArg Reply.presence (represents.contains name), represents⟩
  | bind pairs => exact ⟨rfl, represents.bound pairs⟩
  | unbind => exact ⟨rfl, represents.unbound⟩

theorem replies (represents : store.Represents env) (queries : List Query) :
    Sketch.replies Store.ask queries store = Sketch.replies Environment.ask queries env := by
  induction queries generalizing store env with
  | nil => rfl
  | cons query queries ih =>
    obtain ⟨same, later⟩ := represents.ask query
    simp only [Sketch.replies, same, ih later]

end Store.Represents

/-- Whatever is defined, assigned, bound and undone, in whatever order, variables reply to every query as an environment
of frames does, in values, presence and errors. -/
theorem variables_reply_as_frames (queries : List Query) :
    replies Store.ask queries {} = replies Environment.ask queries {} := by
  have empty : ({} : Store).Represents {} := ⟨fun _ => rfl, .nil⟩
  exact empty.replies queries

end Sketch

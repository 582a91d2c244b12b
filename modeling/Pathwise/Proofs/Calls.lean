import Pathwise.Context

/-!
# What a call does

A call checks its arguments first. An operation takes texts, in a number that depends on the
operation, and what it takes it makes a request of; all other arguments are refused. Only a call
that starts from the current directory reads it, and it does so once.

Each operation has one rule for the arguments that it takes, and a call ends in one of four ways.
What is proved of calls is proved from these rules.
-/

namespace Pathwise

/-! ### The arguments of an operation -/

/-- Values are all texts if and only if they are the values of some texts. -/
theorem all_isSome_text?_iff {values : List Value} :
    values.all (·.text?.isSome) = true ↔ ∃ texts : List Text, values = texts.map .text := by
  constructor
  · intro all
    induction values with
    | nil => exact ⟨[], rfl⟩
    | cons value rest ih =>
      rw [List.all_cons, Bool.and_eq_true, Option.isSome_iff_exists] at all
      obtain ⟨⟨text, isText⟩, others⟩ := all
      obtain ⟨texts, rfl⟩ := ih others
      obtain rfl := Value.text?_eq_some_iff.mp isText
      exact ⟨text :: texts, rfl⟩
  · rintro ⟨texts, rfl⟩
    simp [Value.text?]

namespace Operation

/-- How many arguments an operation takes. -/
def Takes : Operation → Nat → Prop
  | resolve, count | join, count => 1 ≤ count
  | basename, count => count = 1 ∨ count = 2
  | relative, count => count = 2
  | normalize, count | dirname, count | extname, count | isAbsolute, count => count = 1

/-- The request that an operation makes of arguments that it takes. -/
inductive Makes : Operation → List Value → Request → Prop
  | normalize (path : Text) : Makes normalize [.text path] (.normalize path)
  | resolve (first : Text) (others : List Text) :
    Makes resolve (.text first :: others.map .text) (.resolve first others)
  | join (first : Text) (others : List Text) :
    Makes join (.text first :: others.map .text) (.join first others)
  | dirname (path : Text) : Makes dirname [.text path] (.dirname path)
  | basename (path : Text) : Makes basename [.text path] (.basename path [])
  | basenameWithout (path ending : Text) :
    Makes basename [.text path, .text ending] (.basename path ending)
  | extname (path : Text) : Makes extname [.text path] (.extname path)
  | isAbsolute (path : Text) : Makes isAbsolute [.text path] (.isAbsolute path)
  | relative (source target : Text) :
    Makes relative [.text source, .text target] (.relative source target)

variable {operation : Operation} {arguments : List Value} {request : Request}

theorem onePath_eq_ok_iff {path : Text} :
    operation.onePath arguments = .ok path ↔ arguments = [.text path] := by
  constructor
  · intro taken
    unfold onePath at taken
    split at taken
    · cases taken
      rfl
    · cases taken
  · rintro rfl
    rfl

theorem Makes.request_eq (makes : operation.Makes arguments request) :
    operation.request arguments = .ok request := by
  cases makes <;> simp [Operation.request, onePath, texts?, Except.map]

theorem exists_of_map_onePath_eq {form : Text → Request}
    (made : (operation.onePath arguments).map form = .ok request) :
    ∃ path, arguments = [.text path] ∧ form path = request := by
  cases taken : operation.onePath arguments with
  | error error => simp [taken, Except.map] at made
  | ok path =>
    rw [taken] at made
    exact ⟨path, onePath_eq_ok_iff.mp taken, Except.ok.inj made⟩

theorem makes_of_request_eq (made : operation.request arguments = .ok request) :
    operation.Makes arguments request := by
  revert made
  fun_cases Operation.request operation arguments with
  | case1 | case2 | case3 | case4 =>
    intro made
    obtain ⟨path, rfl, rfl⟩ := exists_of_map_onePath_eq made
    constructor
  | case5 _ first others taken =>
    intro made
    simp only [taken] at made
    cases made
    rw [texts?_eq_some_iff.mp taken]
    exact .resolve first others
  | case6 _ taken | case7 _ taken =>
    intro made
    simp only [taken] at made
    cases made
  | case8 first rest others taken =>
    intro made
    cases made
    rw [texts?_eq_some_iff.mp taken]
    exact .join first others
  | case11 path =>
    intro made
    cases made
    exact .basename path
  | case12 path ending =>
    intro made
    cases made
    exact .basenameWithout path ending
  | case17 source target =>
    intro made
    cases made
    exact .relative source target
  | _ =>
    intro made
    cases made

/-- An operation makes just one request of what it takes, and none of anything else. -/
theorem request_eq_ok_iff :
    operation.request arguments = .ok request ↔ operation.Makes arguments request :=
  ⟨makes_of_request_eq, Makes.request_eq⟩

/-- What an operation takes is texts in the right number. -/
theorem exists_makes_iff :
    (∃ request, operation.Makes arguments request) ↔
      ∃ texts : List Text, arguments = texts.map .text ∧ operation.Takes texts.length := by
  constructor
  · rintro ⟨request, makes⟩
    cases makes with
    | normalize path | dirname path | basename path | extname path | isAbsolute path =>
      exact ⟨[path], rfl, by simp [Takes]⟩
    | resolve first others | join first others =>
      exact ⟨first :: others, rfl, by simp [Takes]⟩
    | basenameWithout path ending => exact ⟨[path, ending], rfl, by simp [Takes]⟩
    | relative source target => exact ⟨[source, target], rfl, rfl⟩
  · rintro ⟨texts, rfl, takes⟩
    match operation, texts, takes with
    | .normalize, [path], _ => exact ⟨_, .normalize path⟩
    | .dirname, [path], _ => exact ⟨_, .dirname path⟩
    | .extname, [path], _ => exact ⟨_, .extname path⟩
    | .isAbsolute, [path], _ => exact ⟨_, .isAbsolute path⟩
    | .resolve, first :: others, _ => exact ⟨_, .resolve first others⟩
    | .join, first :: others, _ => exact ⟨_, .join first others⟩
    | .basename, [path], _ => exact ⟨_, .basename path⟩
    | .basename, [path, ending], _ => exact ⟨_, .basenameWithout path ending⟩
    | .relative, [source, target], _ => exact ⟨_, .relative source target⟩

/-- Whether a call starts from the current directory: it resolves one part or more, or it relates
two paths, and all of them are texts. -/
def anchors (operation : Operation) (arguments : List Value) : Bool :=
  match operation with
  | resolve => 1 ≤ arguments.length && arguments.all (·.text?.isSome)
  | relative => arguments.length == 2 && arguments.all (·.text?.isSome)
  | _ => false

theorem Makes.needsDirectory_eq (makes : operation.Makes arguments request) :
    request.needsDirectory = operation.anchors arguments := by
  cases makes <;> simp [Request.needsDirectory, anchors, Value.text?]

theorem exists_makes_of_anchors (needs : operation.anchors arguments = true) :
    ∃ request, operation.Makes arguments request := by
  rw [exists_makes_iff]
  cases operation with
  | resolve =>
    simp only [anchors, Bool.and_eq_true, decide_eq_true_eq] at needs
    obtain ⟨texts, rfl⟩ := all_isSome_text?_iff.mp needs.2
    exact ⟨texts, rfl, by simpa [Takes] using needs.1⟩
  | relative =>
    simp only [anchors, Bool.and_eq_true, beq_iff_eq] at needs
    obtain ⟨texts, rfl⟩ := all_isSome_text?_iff.mp needs.2
    exact ⟨texts, rfl, by simpa [Takes] using needs.1⟩
  | _ => cases needs

theorem anchors_of_error {error : ArgumentError}
    (refused : operation.request arguments = .error error) :
    operation.anchors arguments = false := by
  rw [Bool.eq_false_iff]
  intro needs
  obtain ⟨request, makes⟩ := exists_makes_of_anchors needs
  simp [makes.request_eq] at refused

end Operation

/-! ### The ways in which a call ends -/

namespace Context

/-- What a call gives, and the context after it. -/
inductive Called (context : Context) (operation : Operation) (arguments : List Value) :
    Except CallError (Logged Answer) × Context → Prop
  /-- The arguments are not taken. -/
  | refused {error : ArgumentError} (request : operation.request arguments = .error error) :
    Called context operation arguments (.error (.argument error), context)
  /-- The current directory plays no role, so any other one gives the same answer. -/
  | answered {request : Request} (makes : operation.Makes arguments request)
    (free : operation.anchors arguments = false) (directory : Text) :
    Called context operation arguments (.ok (request.answer context.style directory), context)
  | anchored {request : Request} {directory : Text} (makes : operation.Makes arguments request)
    (needs : operation.anchors arguments = true) (found : context.directory.next = some directory) :
    Called context operation arguments
      (.ok (request.answer context.style directory), ⟨context.style, context.directory.advance⟩)
  /-- The current directory cannot be read. -/
  | lost {request : Request} (makes : operation.Makes arguments request)
    (needs : operation.anchors arguments = true) (missing : context.directory.next = none) :
    Called context operation arguments
      (.error .noDirectory, ⟨context.style, context.directory.advance⟩)

variable {operation : Operation} {arguments : List Value}

theorem called_call (context : Context) (operation : Operation) (arguments : List Value) :
    context.Called operation arguments (context.call operation arguments) := by
  cases made : operation.request arguments with
  | error error =>
    rw [call_of_error made]
    exact .refused made
  | ok request =>
    have makes := Operation.makes_of_request_eq made
    have needs := makes.needsDirectory_eq
    simp only [call, made, answer, needs]
    split
    · next anchors =>
      cases found : context.directory.next with
      | some directory => exact .anchored makes anchors found
      | none => exact .lost makes anchors found
    · next free => exact .answered makes (Bool.eq_false_iff.mpr free) []

/-- The ways in which a call ends exclude each other. -/
theorem Called.call_eq {context : Context} {done : Except CallError (Logged Answer) × Context}
    (called : context.Called operation arguments done) :
    context.call operation arguments = done := by
  cases called with
  | refused request => exact call_of_error request context
  | @answered request makes free directory =>
    rw [← makes.needsDirectory_eq] at free
    simp [call, makes.request_eq, answer, free,
      Request.answer_eq_of_not_needsDirectory free context.style directory []]
  | anchored makes needs found =>
    rw [← makes.needsDirectory_eq] at needs
    simp [call, makes.request_eq, answer, needs, found]
  | lost makes needs missing =>
    rw [← makes.needsDirectory_eq] at needs
    simp [call, makes.request_eq, answer, needs, missing]

/-- What is taken is answered, unless the current directory is needed and cannot be read. -/
theorem fst_call_of_makes {context : Context} {request : Request} {directory : Text}
    (makes : operation.Makes arguments request)
    (found : operation.anchors arguments = true → context.directory.next = some directory) :
    (context.call operation arguments).1 = .ok (request.answer context.style directory) := by
  cases needs : operation.anchors arguments with
  | false => rw [(Called.answered makes needs directory).call_eq]
  | true => rw [(Called.anchored makes needs (found needs)).call_eq]

/-- A call that starts from the current directory reads it once, and no other call reads it. -/
theorem directory_call (context : Context) (operation : Operation) (arguments : List Value) :
    (context.call operation arguments).2.directory
      = if operation.anchors arguments then context.directory.advance else context.directory := by
  have called := called_call context operation arguments
  generalize context.call operation arguments = done at called
  cases called with
  | refused request => simp [Operation.anchors_of_error request]
  | answered _ free _ => simp [free]
  | anchored _ needs _ | lost _ needs _ => simp [needs]

/-- Nothing but the style and the directory that the call reads, if it reads one, has a part in what
a call gives. -/
theorem fst_call_congr {context other : Context} (style : other.style = context.style)
    (next : operation.anchors arguments = true → other.directory.next = context.directory.next) :
    (other.call operation arguments).1 = (context.call operation arguments).1 := by
  have called := called_call context operation arguments
  generalize context.call operation arguments = done at called
  cases called with
  | refused request => rw [call_of_error request]
  | answered makes free directory => rw [(Called.answered makes free directory).call_eq, style]
  | anchored makes needs found =>
    rw [(Called.anchored makes needs ((next needs).trans found)).call_eq, style]
  | lost makes needs missing => rw [(Called.lost makes needs ((next needs).trans missing)).call_eq]

/-- A call is refused if and only if its arguments are not texts in the right number. -/
theorem exists_call_eq_refused_iff (context : Context) (operation : Operation)
    (arguments : List Value) :
    (∃ error, (context.call operation arguments).1 = .error (.argument error)) ↔
      ¬ ∃ texts : List Text, arguments = texts.map .text ∧ operation.Takes texts.length := by
  rw [← Operation.exists_makes_iff]
  have called := called_call context operation arguments
  generalize context.call operation arguments = done at called
  cases called with
  | @refused error request =>
    refine iff_of_true ⟨error, rfl⟩ ?_
    rintro ⟨made, makes⟩
    simp [makes.request_eq] at request
  | answered makes _ _ | anchored makes _ _ | lost makes _ _ =>
    exact iff_of_false (by simp) (not_not_intro ⟨_, makes⟩)

end Context

end Pathwise

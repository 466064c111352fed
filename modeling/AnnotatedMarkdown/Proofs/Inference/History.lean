import AnnotatedMarkdown.Proofs.Compilation.ExampleFunctions
import AnnotatedMarkdown.Proofs.Generation.Leaves

/-!
# Numbers over a history

The number of the next example goes on from request to request, whether the requests succeed
or fail.  This module says which numbers a history of requests takes.

* A `Request` asks for the examples of a documentation text or for a single example, and
  `answers` are the outcomes of requests that are made one after the other.
* `handled` are the examples of a request up to the first one that fails, and `history` those
  of several requests.  An example takes a number if it `isGrammatical`.
* `answer_outcome` is what one request returns, and `next_answer` which number is the next one.
* `getElem?_answers` and `sublist_answers` carry it over to a whole history, and
  `answers_numbered` joins them.
-/

namespace AnnotatedMarkdown.Inference

open Documentation Generation Python Outcome

/-! ## Requests -/

/-- What is asked for: the examples of a documentation text, or a single example. -/
inductive Request where
  | document (reference documentation : Text)
  | sample (reference : Text) (e : Example)

/-- The outcome of a request, and the next number. -/
def Request.answer (s : Settings) (number : Nat) : Request → Except Failure Entries × Nat
  | document reference documentation => infer s number reference documentation
  | sample reference e => inferExample s number reference e

/-- The outcomes of requests that are made one after the other, each with the next number. -/
def answers (s : Settings) (number : Nat) : List Request → List (Except Failure Entries × Nat)
  | [] => []
  | r :: requests => r.answer s number :: answers s (r.answer s number).2 requests

/-- The examples of a request with their references, in the order of the document. -/
def Request.examples : Request → List (Text × Example)
  | document reference documentation => (Markdown.examples documentation).map (reference, ·)
  | sample reference e => [(reference, e)]

/-- The definitions in an answer. -/
def definitionsIn : Except Failure Entries → Module
  | .ok entries => (Value.dict entries).leaves.flatMap Value.rawStatements
  | .error _ => []

section

variable (s : Settings)

/-- Whether the source of an example is read as statements. -/
def isGrammatical (x : Text × Example) : Bool :=
  (parseSource s x.1 (x.2.name.getD []) x.2.source).isOk

/-- Whether an example becomes a function. -/
def isAccepted (x : Text × Example) : Bool :=
  (examine s x.1 x.2).isOk

/-- The examples up to the first one that fails. -/
def handled : List (Text × Example) → List (Text × Example)
  | [] => []
  | x :: xs => if isAccepted s x then x :: handled xs else [x]

/-- The examples that requests handle. -/
def history (requests : List Request) : List (Text × Example) :=
  requests.flatMap fun r => handled s r.examples

/-- How many of some examples take a number. -/
def numbersTaken (xs : List (Text × Example)) : Nat :=
  xs.countP (isGrammatical s)

/-- The statements of examples. -/
def examineEach (xs : List (Text × Example)) : Except Failure (List (Example × Module)) :=
  xs.mapM fun x => (examine s x.1 x.2).map (x.2, ·)

end

variable {s : Settings}

/-! ## One example -/

theorem isGrammatical_of_isAccepted {x : Text × Example} (h : isAccepted s x = true) :
    isGrammatical s x = true := by
  obtain ⟨body, hbody⟩ := isOk_iff.1 h
  obtain ⟨parsed, hparsed, -⟩ := bind_eq_ok.1 hbody
  exact isOk_iff.2 ⟨parsed, hparsed⟩

/-- An example that is not grammatical takes no number. -/
theorem inferExample_of_not_isGrammatical {x : Text × Example} (h : isGrammatical s x = false)
    (number : Nat) : ∃ f, inferExample s number x.1 x.2 = (.error f, number) := by
  unfold isGrammatical at h
  cases hparse : parseSource s x.1 (x.2.name.getD []) x.2.source with
  | ok body =>
    rw [hparse] at h
    cases h
  | error f => exact ⟨f, by simp [inferExample, hparse]⟩

/-- An example that is grammatical takes a number, whether it is accepted or not. -/
theorem next_inferExample_of_isGrammatical {x : Text × Example} (h : isGrammatical s x = true)
    (number : Nat) : (inferExample s number x.1 x.2).2 = number + 1 := by
  obtain ⟨body, hbody⟩ := isOk_iff.1 h
  simp [inferExample, hbody]

theorem next_inferExample_eq (number : Nat) (x : Text × Example) :
    (inferExample s number x.1 x.2).2 = number + numbersTaken s [x] := by
  unfold numbersTaken
  cases h : isGrammatical s x with
  | true => rw [next_inferExample_of_isGrammatical h, List.countP_singleton, if_pos h]
  | false =>
    obtain ⟨f, hf⟩ := inferExample_of_not_isGrammatical h number
    rw [hf, List.countP_singleton, if_neg (by simp [h])]
    rfl

theorem numbersTaken_append (xs ys : List (Text × Example)) :
    numbersTaken s (xs ++ ys) = numbersTaken s xs + numbersTaken s ys :=
  List.countP_append

theorem numbersTaken_cons (x : Text × Example) (xs : List (Text × Example)) :
    numbersTaken s (x :: xs) = numbersTaken s [x] + numbersTaken s xs :=
  numbersTaken_append [x] xs

/-! ## One request -/

/-- Examples that are all accepted are all handled, and each takes a number. -/
theorem handled_of_accepted {xs : List (Text × Example)} (h : ∀ x ∈ xs, isAccepted s x = true) :
    handled s xs = xs ∧ numbersTaken s xs = xs.length := by
  constructor
  · induction xs with
    | nil => rfl
    | cons x xs ih =>
      obtain ⟨hx, hxs⟩ := List.forall_mem_cons.1 h
      rw [handled, if_pos hx, ih hxs]
  · exact List.countP_eq_length.2 fun x hx => isGrammatical_of_isAccepted (h x hx)

theorem next_inferAll_cons (hs : s.HasIdentifier) (number : Nat) (reference : Text) (e : Example)
    (examples : List Example) :
    (inferAll s number reference (e :: examples)).2 =
      if isAccepted s (reference, e) then
        (inferAll s (inferExample s number reference e).2 reference examples).2
      else (inferExample s number reference e).2 := by
  have hfirst := inferExample_eq hs number reference e
  rw [inferAll, isAccepted]
  generalize inferExample s number reference e = answer at hfirst ⊢
  obtain ⟨outcome, next⟩ := answer
  obtain rfl : outcome = (examine s reference e).map (numberedEntry s number e) := hfirst
  cases examine s reference e with
  | error f => rfl
  | ok body =>
    rw [map_ok]
    dsimp only
    rcases inferAll s next reference examples with ⟨- | -, -⟩ <;> rfl

/-- All examples up to the first failure take their numbers. -/
theorem next_inferAll (hs : s.HasIdentifier) (number : Nat) (reference : Text)
    (examples : List Example) :
    (inferAll s number reference examples).2 =
      number + numbersTaken s (handled s (examples.map (reference, ·))) := by
  induction examples generalizing number with
  | nil => rfl
  | cons e examples ih =>
    have hnext : (inferExample s number reference e).2 = number + numbersTaken s [(reference, e)] :=
      next_inferExample_eq number (reference, e)
    rw [next_inferAll_cons hs, List.map_cons, handled]
    split
    · rw [ih, hnext, numbersTaken_cons (reference, e) (handled s _), Nat.add_assoc]
    · exact hnext

theorem isAccepted_of_examineEach {xs : List (Text × Example)} {read : List (Example × Module)}
    (h : examineEach s xs = .ok read) : ∀ x ∈ xs, isAccepted s x = true := by
  intro x hx
  obtain ⟨y, hy⟩ := exists_of_mapM_eq_ok h hx
  obtain ⟨body, hbody, -⟩ := map_eq_ok.1 hy
  exact isOk_iff.2 ⟨body, hbody⟩

theorem examineEach_eq_error_iff {xs : List (Text × Example)} {f : Failure} :
    examineEach s xs = .error f ↔
      ∃ done x rest, xs = done ++ x :: rest ∧ (∀ d ∈ done, isAccepted s d = true) ∧
        examine s x.1 x.2 = .error f := by
  have hisOk : ∀ x : Text × Example,
      ((examine s x.1 x.2).map (x.2, ·)).isOk = true ↔ isAccepted s x = true := by
    intro x
    unfold isAccepted
    cases examine s x.1 x.2 <;> simp [Except.isOk, Except.toBool]
  rw [examineEach, mapM_eq_error_iff]
  simp only [hisOk, map_eq_error]

theorem examineAll_eq_examineEach (reference : Text) (examples : List Example) :
    examineAll s reference examples = examineEach s (examples.map (reference, ·)) := by
  rw [examineAll, examineEach, List.mapM_map]
  rfl

/-- The definitions in entries of examples. -/
theorem flatMap_rawStatements_numberedEntries (number : Nat) (read : List (Example × Module)) :
    (leavesOfAll (numberedEntries s number read)).flatMap Value.rawStatements =
      exampleFunctions s number read := by
  induction read generalizing number with
  | nil => rfl
  | cons x read ih =>
    obtain ⟨e, body⟩ := x
    rw [numberedEntries, leavesOfAll, List.flatMap_append, ih]
    rfl

theorem definitionsIn_examplesField (number : Nat) (read : List (Example × Module)) :
    definitionsIn (.ok (examplesField s number read)) = exampleFunctions s number read := by
  cases read with
  | nil => rfl
  | cons x read =>
    rw [← flatMap_rawStatements_numberedEntries]
    exact congrArg (List.flatMap Value.rawStatements) (List.append_nil _)

/-- The outcome of a request: the failure of its first example that fails, or the entries of all
its examples. -/
theorem answer_outcome (hs : s.HasIdentifier) (number : Nat) (r : Request) :
    (∀ f, (r.answer s number).1 = .error f ↔ examineEach s r.examples = .error f) ∧
      ∀ read, examineEach s r.examples = .ok read →
        definitionsIn (r.answer s number).1 = exampleFunctions s number read := by
  cases r with
  | document reference documentation =>
    rw [Request.answer, Request.examples, ← examineAll_eq_examineEach,
      (infer_eq hs number reference documentation).1]
    refine ⟨fun f => map_eq_error, fun read hread => ?_⟩
    rw [hread]
    exact definitionsIn_examplesField number read
  | sample reference e =>
    have hsingle : examineEach s [(reference, e)] =
        (examine s reference e).map fun body => [(e, body)] := by
      rw [examineEach, List.mapM_cons]
      cases examine s reference e <;> rfl
    rw [Request.answer, Request.examples, hsingle, inferExample_eq hs]
    refine ⟨fun f => map_eq_error.trans map_eq_error.symm, fun read hread => ?_⟩
    obtain ⟨body, hbody, rfl⟩ := map_eq_ok.1 hread
    rw [hbody]
    rfl

/-- The examples that a request handles have taken their numbers when it is answered, even if it
fails. -/
theorem next_answer (hs : s.HasIdentifier) (number : Nat) (r : Request) :
    (r.answer s number).2 = number + numbersTaken s (handled s r.examples) := by
  cases r with
  | document reference documentation =>
    rw [Request.answer, Request.examples, infer, inferExamples]
    split
    · next hnone =>
      rw [List.isEmpty_iff.1 hnone]
      rfl
    · exact next_inferAll hs number reference _
  | sample reference e =>
    have hhandled : handled s [(reference, e)] = [(reference, e)] := by
      rw [handled, handled, ite_self]
    rw [Request.answer, Request.examples, hhandled]
    exact next_inferExample_eq number (reference, e)

/-! ## Histories -/

theorem history_append (requests more : List Request) :
    history s (requests ++ more) = history s requests ++ history s more :=
  List.flatMap_append

theorem numbersTaken_history_cons (r : Request) (requests : List Request) :
    numbersTaken s (history s (r :: requests)) =
      numbersTaken s (handled s r.examples) + numbersTaken s (history s requests) := by
  rw [history, List.flatMap_cons, numbersTaken_append, history]

/-- A request is answered with the numbers that the history before it has left. -/
theorem getElem?_answers (hs : s.HasIdentifier) (number : Nat) (before : List Request) (r : Request)
    (after : List Request) :
    (answers s number (before ++ r :: after))[before.length]? =
      some (r.answer s (number + numbersTaken s (history s before))) := by
  induction before generalizing number with
  | nil => rfl
  | cons first before ih =>
    rw [List.cons_append, answers, List.length_cons, List.getElem?_cons_succ, ih, next_answer hs,
      numbersTaken_history_cons, Nat.add_assoc]

theorem definedFunctions_answer (hs : s.HasIdentifier) (number : Nat) (r : Request) :
    (definedFunctions (definitionsIn (r.answer s number).1)).Sublist
      ((List.range' number (numbersTaken s (handled s r.examples))).map s.identifier) := by
  obtain ⟨hfailure, hdefinitions⟩ := answer_outcome hs number r
  cases hread : examineEach s r.examples with
  | error f =>
    rw [(hfailure f).2 hread]
    exact List.nil_sublist _
  | ok read =>
    obtain ⟨hhandled, htaken⟩ := handled_of_accepted (isAccepted_of_examineEach hread)
    rw [hdefinitions read hread, definedFunctions_exampleFunctions, hhandled, htaken,
      length_of_mapM_eq_ok hread]

/-- The functions in the answers of a history have numbers in their order. -/
theorem sublist_answers (hs : s.HasIdentifier) (number : Nat) (requests : List Request) :
    ((answers s number requests).flatMap fun a => definedFunctions (definitionsIn a.1)).Sublist
      ((List.range' number (numbersTaken s (history s requests))).map s.identifier) := by
  induction requests generalizing number with
  | nil => exact List.nil_sublist _
  | cons r requests ih =>
    rw [answers, List.flatMap_cons, next_answer hs, numbersTaken_history_cons, ← List.range'_append_1,
      List.map_append]
    exact (definedFunctions_answer hs number r).append (ih _)

/-- Every example of a request that succeeds has its definition, numbered by its place. -/
theorem getElem?_definitionsIn (hs : s.HasIdentifier) {number : Nat} {r : Request}
    {read : List (Example × Module)} (hread : examineEach s r.examples = .ok read)
    {done rest : List (Text × Example)} {x : Text × Example}
    (hexamples : r.examples = done ++ x :: rest) :
    ∃ body, examine s x.1 x.2 = .ok body ∧
      (definitionsIn (r.answer s number).1)[done.length]? =
        some (exampleFunction (s.identifier (number + done.length)) body) := by
  have hx : r.examples[done.length]? = some x := by
    rw [hexamples]
    simp
  obtain ⟨y, hy, hplace⟩ := getElem?_of_mapM_eq_ok hread hx
  obtain ⟨body, hbody, rfl⟩ := map_eq_ok.1 hy
  refine ⟨body, hbody, ?_⟩
  rw [(answer_outcome hs number r).2 read hread, exampleFunctions_eq_mapIdx, List.getElem?_mapIdx,
    hplace]
  rfl

/-- A history of requests, whatever fails in it.  An example that is not grammatical takes no
number, and any other takes the next one, accepted or not.  A request handles its examples in
their order up to the first that fails, whose failure is its own, and the numbers taken until then
are gone.  The definition of an example carries the number behind those taken by the whole history
before it, so that no two definitions in the answers have one name. -/
theorem answers_numbered (hs : s.HasIdentifier) (requests : List Request) :
    (∀ number x, isGrammatical s x = false →
      ∃ f, inferExample s number x.1 x.2 = (.error f, number)) ∧
    (∀ number x, isGrammatical s x = true → (inferExample s number x.1 x.2).2 = number + 1) ∧
    (∀ before r after, requests = before ++ r :: after →
      ∃ outcome, (answers s 1 requests)[before.length]? =
          some (outcome, 1 + numbersTaken s (history s (before ++ [r]))) ∧
        (∀ f, outcome = .error f ↔
          ∃ done x rest, r.examples = done ++ x :: rest ∧ (∀ d ∈ done, isAccepted s d = true) ∧
            examine s x.1 x.2 = .error f) ∧
        (outcome.isOk = true → (definitionsIn outcome).length = r.examples.length ∧
          ∀ done x rest, r.examples = done ++ x :: rest →
            ∃ body, examine s x.1 x.2 = .ok body ∧
              (definitionsIn outcome)[done.length]? = some
                (exampleFunction (s.identifier (1 + numbersTaken s (history s before ++ done))) body))) ∧
    ((answers s 1 requests).flatMap fun a => definedFunctions (definitionsIn a.1)).Nodup := by
  refine ⟨?ungrammatical, ?grammatical, ?request, ?names⟩
  case ungrammatical => exact fun number x h => inferExample_of_not_isGrammatical h number
  case grammatical => exact fun number x h => next_inferExample_of_isGrammatical h number
  case names =>
    exact (sublist_answers hs 1 requests).nodup
      (List.Nodup.map s.identifier_injective List.nodup_range')
  case request =>
    rintro before r after rfl
    obtain ⟨hfailure, hdefinitions⟩ :=
      answer_outcome hs (1 + numbersTaken s (history s before)) r
    refine ⟨(r.answer s (1 + numbersTaken s (history s before))).1, ?_, ?_, fun hok => ?_⟩
    · have hlast : history s [r] = handled s r.examples := List.append_nil _
      have hnext := next_answer hs (1 + numbersTaken s (history s before)) r
      rw [getElem?_answers hs, history_append, hlast, numbersTaken_append, ← Nat.add_assoc, ← hnext]
    · exact fun f => (hfailure f).trans examineEach_eq_error_iff
    · cases hread : examineEach s r.examples with
      | error f =>
        rw [(hfailure f).2 hread] at hok
        cases hok
      | ok read =>
        refine ⟨?_, fun done x rest hexamples => ?_⟩
        · rw [hdefinitions read hread, exampleFunctions_eq_mapIdx, List.length_mapIdx,
            length_of_mapM_eq_ok hread]
        · have hdone : ∀ d ∈ done, isAccepted s d = true := fun d hd =>
            isAccepted_of_examineEach hread d (hexamples ▸ List.mem_append_left _ hd)
          rw [numbersTaken_append, (handled_of_accepted hdone).2, ← Nat.add_assoc]
          exact getElem?_definitionsIn hs hread hexamples

/-- Requests of which the first fails at its second example, which is grammatical, and the second
one at an example that is not. -/
def interruptedRequests : List Request :=
  [.document "f" "Run::\n\n    x = 1\n\n# B::\n\n    break\n\n# C::\n\n    y = 2\n",
    .sample "f" ⟨"D", "x =", true⟩]

/-- An example that is accepted. -/
def lastSample : Text × Example :=
  ("g", ⟨some "E", "z = 3", true⟩)

/-- Behind these requests an example is the third one that takes a number. -/
theorem answers_interruptedRequests :
    Settings.default.HasIdentifier ∧
      ∃ outcome body,
        (answers .default 1 (interruptedRequests ++ [.sample lastSample.1 lastSample.2]))[2]? =
          some (outcome, 4) ∧
        (definitionsIn outcome)[0]? =
          some (exampleFunction (Settings.default.identifier 3) body) := by
  have htaken : numbersTaken .default (history .default interruptedRequests) = 2 ∧
      numbersTaken .default
        (history .default (interruptedRequests ++ [.sample lastSample.1 lastSample.2])) = 3 := by
    decide +kernel
  have haccepted : isAccepted .default lastSample = true := by decide +kernel
  obtain ⟨-, -, hrequest, -⟩ := answers_numbered hasIdentifier_default
    (interruptedRequests ++ [.sample lastSample.1 lastSample.2])
  obtain ⟨outcome, hanswer, hfailure, hsuccess⟩ :=
    hrequest interruptedRequests (.sample lastSample.1 lastSample.2) [] rfl
  have hok : outcome.isOk = true := by
    cases outcome with
    | ok entries => rfl
    | error f =>
      obtain ⟨done, x, rest, hexamples, -, hx⟩ := (hfailure f).1 rfl
      have hmem : x ∈ (Request.sample lastSample.1 lastSample.2).examples := by
        rw [hexamples]
        simp
      rw [List.mem_singleton.1 hmem] at hx
      rw [isAccepted, hx] at haccepted
      cases haccepted
  obtain ⟨-, hdefinition⟩ := hsuccess hok
  obtain ⟨body, -, hbody⟩ := hdefinition [] lastSample [] rfl
  rw [htaken.2] at hanswer
  rw [List.append_nil, htaken.1] at hbody
  exact ⟨hasIdentifier_default, outcome, body, hanswer, hbody⟩

end AnnotatedMarkdown.Inference

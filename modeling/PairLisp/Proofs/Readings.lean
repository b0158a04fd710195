import Mathlib.Data.List.TakeWhile
import PairLisp.Proofs.RoundTrip

/-!
# Reading on after errors

A stream is read again and again until its input ends, and an error does not stop it: reading goes
on behind the token that was refused. What keeps this from going on for ever is that every reading
uses up a token, an error included (`length_next`). The route:

* `TokenStream.readings` are the readings of a stream, each with the tokens it used up;
* `Segmented` says how the grammar cuts tokens into segments: expressions, beginnings of expressions
  up to a token that cannot go on with them, and a last beginning that the input leaves open. It
  leaves no gap and no overlap (`Segmented.flatMap_fst`);
* the readings are such a segmentation (`segmented_readings`), and their answers are what the reader
  gets in one pass over all tokens (`segments_eq_readings`);
* whoever does something about one reading after the other does it about the list of the readings
  (`drive_eq`), so two ways of doing so can be compared reading by reading (`driveAll_rel`);
* a text that is read line by line has the tokens of the whole text (`toList_ofText`).
-/

namespace PairLisp

open Token Grammar

/-! ## Segments -/

/-- How tokens are cut into segments, each with what reading it answers. -/
inductive Grammar.Segmented : List Token → List (List Token × Except ReadError Expr) → Prop where
  | done : Segmented [] []
  /-- A complete expression. -/
  | expression {used rest : List Token} {e : Expr}
      {parts : List (List Token × Except ReadError Expr)} :
      Derives used (.expression e) → Segmented rest parts →
      Segmented (used ++ rest) ((used, .ok e) :: parts)
  /-- The beginning of an expression and a token that cannot go on with it. -/
  | refused {before rest : List Token} {t : Token} {cause : ReadError}
      {parts : List (List Token × Except ReadError Expr)} :
      Viable before → ¬ IsPrefix (before ++ [t]) → cause.atEnd = false → Segmented rest parts →
      Segmented (before ++ t :: rest) ((before ++ [t], .error cause) :: parts)
  /-- The beginning of an expression that the end of input leaves open. -/
  | ended {tokens : List Token} {cause : ReadError} : Viable tokens →
      InnermostOpen tokens cause → Segmented tokens [(tokens, .error cause)]

namespace Grammar

variable {tokens : List Token} {parts : List (List Token × Except ReadError Expr)}

/-- The segments are the tokens, in order, without gap or overlap. -/
theorem Segmented.flatMap_fst (h : Segmented tokens parts) :
    parts.flatMap Prod.fst = tokens := by
  induction h with
  | done => rfl
  | expression _ _ ih => rw [List.flatMap_cons, ih]
  | refused _ _ _ _ ih => rw [List.flatMap_cons, ih, List.append_assoc, List.singleton_append]
  | ended _ _ => rw [List.flatMap_cons, List.flatMap_nil, List.append_nil]

/-- No segment is empty. -/
theorem Segmented.ne_nil (h : Segmented tokens parts) : ∀ part ∈ parts, part.1 ≠ [] := by
  induction h with
  | done => simp
  | expression he _ ih =>
      intro part hpart
      rcases List.mem_cons.mp hpart with rfl | hpart
      · exact derives_ne_nil he
      · exact ih part hpart
  | refused _ _ _ _ ih =>
      intro part hpart
      rcases List.mem_cons.mp hpart with rfl | hpart
      · simp
      · exact ih part hpart
  | ended _ hopen =>
      intro part hpart
      obtain rfl := List.mem_singleton.mp hpart
      exact innermostOpen_ne_nil hopen

theorem Segmented.eq_nil (h : Segmented [] parts) : parts = [] := by
  cases parts with
  | nil => rfl
  | cons part rest =>
      have hflat := h.flatMap_fst
      rw [List.flatMap_cons] at hflat
      exact absurd (List.append_eq_nil_iff.mp hflat).1 (h.ne_nil part List.mem_cons_self)

/-- The expressions among the segments are readable if the symbols among the tokens are. -/
theorem Segmented.readable (h : Segmented tokens parts)
    (htokens : ∀ t ∈ tokens, t.kind = .symbol → Token.Readable t.text) :
    ∀ part ∈ parts, ∀ e, part.2 = .ok e → e.Readable := by
  induction h with
  | done => simp
  | expression he _ ih =>
      intro part hpart e heq
      rcases List.mem_cons.mp hpart with rfl | hpart
      · cases heq
        exact readable_of_derives he fun t ht => htokens t (List.mem_append_left _ ht)
      · exact ih (fun t ht => htokens t (List.mem_append_right _ ht)) part hpart e heq
  | refused _ _ _ _ ih =>
      intro part hpart e heq
      rcases List.mem_cons.mp hpart with rfl | hpart
      · cases heq
      · refine ih (fun t ht => htokens t ?_) part hpart e heq
        exact List.mem_append_right _ (List.mem_cons_of_mem _ ht)
  | ended _ _ =>
      intro part hpart e heq
      obtain rfl := List.mem_singleton.mp hpart
      cases heq

end Grammar

namespace TokenStream

/-! ## Readings -/

/-- Where there is no next reading, the input has ended. -/
theorem exists_read_of_next_none {stream : TokenStream} (h : stream.next = none) :
    ∃ after, stream.read = (.ok none, after) := by
  rw [next] at h
  split at h
  · next after hread => exact ⟨after, hread⟩
  · cases h
  · cases h

/-- The next reading is what the stream is read as. -/
theorem read_of_next_some {stream after : TokenStream} {reading : Except ReadError Expr}
    (h : stream.next = some (reading, after)) : stream.read = (reading.map some, after) := by
  rw [next] at h
  split at h
  · cases h
  · next hread =>
      cases h
      exact hread
  · next hread =>
      cases h
      exact hread

/-- The tokens of a stream that are used up where another one is left of it. -/
def usedUp (stream after : TokenStream) : List Token :=
  stream.toList.take (stream.toList.length - after.toList.length)

/-- All readings of a stream, failed ones included: the tokens that each of them uses up, and what it
    answers. -/
def readings (stream : TokenStream) : List (List Token × Except ReadError Expr) :=
  match _ : stream.next with
  | none => []
  | some (reading, after) => (stream.usedUp after, reading) :: after.readings
termination_by stream.toList.length
decreasing_by exact length_next (by assumption)

/-- At the end of input there are no readings. -/
theorem readings_of_next_none {stream : TokenStream} (h : stream.next = none) :
    stream.readings = [] := by
  rw [readings]
  split
  · rfl
  · next hsome => cases h.symm.trans hsome

/-- The next reading is the first one of all. -/
theorem readings_of_next_some {stream after : TokenStream} {reading : Except ReadError Expr}
    (h : stream.next = some (reading, after)) :
    stream.readings = (stream.usedUp after, reading) :: after.readings := by
  rw [readings]
  split
  · next hnone => cases h.symm.trans hnone
  · next hsome =>
      cases h.symm.trans hsome
      rfl

theorem usedUp_of_append {stream after : TokenStream} {used : List Token}
    (h : stream.toList = used ++ after.toList) : stream.usedUp after = used := by
  rw [usedUp, h, List.length_append, Nat.add_sub_cancel, List.take_left]

/-- **The readings of a stream cut its tokens into segments.** -/
theorem segmented_readings (stream : TokenStream) : Segmented stream.toList stream.readings := by
  fun_induction readings stream with
  | case1 stream hnext =>
      obtain ⟨after, hread⟩ := exists_read_of_next_none hnext
      have hverdict := verdict_stream stream
      rw [hread] at hverdict
      dsimp only at hverdict
      generalize stream.toList = tokens at hverdict
      generalize after.toList = left at hverdict
      cases hverdict
      exact .done
  | case2 stream reading after hnext ih =>
      have hverdict := verdict_stream stream
      rw [read_of_next_some hnext] at hverdict
      dsimp only at hverdict
      generalize htokens : stream.toList = tokens at hverdict
      generalize hleft : after.toList = left at hverdict ih
      cases reading with
      | ok e =>
          cases hverdict with
          | expression he =>
              rw [usedUp_of_append (by rw [htokens, hleft])]
              exact .expression he ih
      | error cause =>
          cases hverdict with
          | @refused before rest t cause hviable hprefix hcause =>
              have hsplit : stream.toList = (before ++ [t]) ++ after.toList := by
                rw [htokens, hleft, List.append_assoc, List.singleton_append]
              rw [usedUp_of_append hsplit]
              exact .refused hviable hprefix hcause ih
          | ended hviable hopen =>
              have hsplit : stream.toList = tokens ++ after.toList := by
                rw [htokens, hleft, List.append_nil]
              rw [usedUp_of_append hsplit, ih.eq_nil]
              exact .ended hviable hopen

/-! ## Work on readings -/

section Drive

variable {σ ρ : Type} (act : σ → Except ReadError Expr → Course σ ρ) (atEnd : σ → ρ)

/-- What is done about a list of readings, one after the other, until that ends the work. -/
def driveAll (state : σ) : List (Except ReadError Expr) → ρ
  | [] => atEnd state
  | reading :: later =>
    match act state reading with
    | .ends result => result
    | .goesOn next before => before (driveAll next later)

/-- **Work along a stream is work on the list of its readings**, although each of them is dealt with
    before the next one is read. -/
theorem drive_eq (state : σ) (stream : TokenStream) :
    stream.drive act atEnd state = driveAll act atEnd state (stream.readings.map Prod.snd) := by
  fun_induction drive act atEnd state stream with
  | case1 state stream hnext =>
      rw [readings_of_next_none hnext]
      rfl
  | case2 state stream reading after hnext result hact =>
      rw [readings_of_next_some hnext, List.map_cons, driveAll, hact]
  | case3 state stream reading after hnext next before hact ih =>
      rw [readings_of_next_some hnext, List.map_cons, driveAll, hact, ih]

variable {σ' ρ' : Type} {act' : σ' → Except ReadError Expr → Course σ' ρ'} {atEnd' : σ' → ρ'}
variable {act atEnd}

/-- Two courses are related: both end in related results, or both go on in related states and put
    in front of related results what keeps them related. -/
inductive Course.Related (states : σ → σ' → Prop) (results : ρ → ρ' → Prop) :
    Course σ ρ → Course σ' ρ' → Prop where
  | ends {result : ρ} {result' : ρ'} : results result result' →
      Course.Related states results (.ends result) (.ends result')
  | goesOn {next : σ} {next' : σ'} {before : ρ → ρ} {before' : ρ' → ρ'} : states next next' →
      (∀ result result', results result result' → results (before result) (before' result')) →
      Course.Related states results (.goesOn next before) (.goesOn next' before')

/-- **Where each reading is dealt with alike, all of them are.** By induction on the readings. -/
theorem driveAll_rel (states : σ → σ' → Prop) (results : ρ → ρ' → Prop)
    {readings : List (Except ReadError Expr)}
    (hact : ∀ state state', states state state' → ∀ reading ∈ readings,
      Course.Related states results (act state reading) (act' state' reading))
    (hend : ∀ state state', states state state' → results (atEnd state) (atEnd' state'))
    {state : σ} {state' : σ'} (h : states state state') :
    results (driveAll act atEnd state readings) (driveAll act' atEnd' state' readings) := by
  induction readings generalizing state state' with
  | nil => exact hend state state' h
  | cons reading later ih =>
      have hcourse := hact state state' h reading List.mem_cons_self
      rw [driveAll, driveAll]
      generalize act state reading = course at hcourse
      generalize act' state' reading = course' at hcourse
      cases hcourse with
      | ends hresult => exact hresult
      | goesOn hnext hbefore =>
          refine hbefore _ _ (ih (fun state state' h other hother => ?_) hnext)
          exact hact state state' h other (List.mem_cons_of_mem reading hother)

end Drive

end TokenStream

/-! ## Reading in one pass -/

namespace Reader

/-- Going on over the tokens from a state, up to the first answer and from there on. -/
theorem segments_eq_feed (state : State) (tokens : List Token) :
    segments state tokens =
      match feed state tokens with
      | .pending last => (last.endFault?.map Except.error).toList
      | .done result rest => result :: segments .start rest := by
  induction tokens generalizing state with
  | nil => rfl
  | cons t tokens ih =>
      rw [segments, feed]
      cases step state t with
      | more next => exact ih next
      | value e => rfl
      | refused cause => rfl

/-- The first answer of the pass is that of a reading, and the others follow behind it. -/
theorem segments_start (tokens : List Token) :
    segments .start tokens =
      match read tokens with
      | (.ok none, _) => []
      | (.ok (some e), rest) => .ok e :: segments .start rest
      | (.error cause, rest) => .error cause :: segments .start rest := by
  rw [segments_eq_feed, read]
  cases feed .start tokens with
  | done result rest => cases result <;> rfl
  | pending last =>
      dsimp only
      rw [State.finish]
      cases last.endFault? <;> rfl

end Reader

/-- A reading of a stream is one of its tokens, whatever chunks they come in. -/
theorem read_toList {stream after : TokenStream} {answer : Except ReadError (Option Expr)}
    (h : stream.read = (answer, after)) :
    Reader.read stream.toList = (answer, after.toList) := by
  obtain ⟨hanswer, hleft, _⟩ := read_stream stream
  rw [h] at hanswer hleft
  exact (Prod.ext hanswer hleft).symm

/-- **One pass over the tokens of a stream gives the answers of its readings.** -/
theorem segments_eq_readings (stream : TokenStream) :
    Reader.segments .start stream.toList = stream.readings.map Prod.snd := by
  fun_induction TokenStream.readings stream with
  | case1 stream hnext =>
      obtain ⟨after, hread⟩ := TokenStream.exists_read_of_next_none hnext
      rw [Reader.segments_start, read_toList hread, List.map_nil]
  | case2 stream reading after hnext ih =>
      rw [Reader.segments_start, read_toList (TokenStream.read_of_next_some hnext), List.map_cons, ← ih]
      cases reading <;> rfl

/-! ## Lines -/

namespace Source

/-- The lines of a text have the tokens of the text: a line ends with a blank. -/
theorem flatMap_lex_splitLines (line cs : List Char) :
    (splitLines line cs).flatMap lex = split (line.reverse ++ cs) := by
  induction cs generalizing line with
  | nil =>
      rw [splitLines, List.append_nil]
      cases line with
      | nil => simp
      | cons c line => simp [lex_eq_split]
  | cons c cs ih =>
      rw [splitLines]
      by_cases hc : c = '\n'
      · subst hc
        have hblank : isBlank '\n' = true := by decide
        rw [if_pos rfl, List.flatMap_cons, ih, lex_eq_split, String.toList_ofList,
          List.reverse_cons, split_append_blank hblank, split_append_blank hblank, split_nil,
          List.append_nil, List.reverse_nil, List.nil_append]
      · rw [if_neg hc, ih, List.reverse_cons, List.append_assoc, List.singleton_append]

theorem ne_empty_of_mem_splitLines {line cs : List Char} {s : String}
    (h : s ∈ splitLines line cs) : s ≠ "" := by
  induction cs generalizing line with
  | nil =>
      rw [splitLines] at h
      cases line with
      | nil => cases h
      | cons c line =>
          obtain rfl := List.mem_singleton.mp h
          simp [← String.toList_eq_nil_iff]
  | cons c cs ih =>
      rw [splitLines] at h
      split at h
      · rcases List.mem_cons.mp h with rfl | h
        · simp [← String.toList_eq_nil_iff]
        · exact ih h
      · exact ih h

end Source

/-- **A text that is read line by line has the tokens of the whole text.** -/
theorem toList_ofText (text : String) :
    (TokenStream.ofSource (.ofText text)).toList = lex text := by
  have hlines : (Source.splitLines [] text.toList).takeWhile (· ≠ "") =
      Source.splitLines [] text.toList := by
    refine List.takeWhile_eq_self_iff.mpr fun s hs => ?_
    exact decide_eq_true (Source.ne_empty_of_mem_splitLines hs)
  rw [TokenStream.toList, TokenStream.ofSource, Source.ofText, Source.ofLines, hlines]
  exact (Source.flatMap_lex_splitLines [] text.toList).trans (lex_eq_split text).symm

/-- The readings of a source are readable where they are expressions: each of its symbols is one that
    was found in a chunk. -/
theorem readable_of_mem_readings {source : Source} {part : List Token × Except ReadError Expr}
    (h : part ∈ (TokenStream.ofSource source).readings) {e : Expr} (he : part.2 = .ok e) :
    e.Readable := by
  refine (TokenStream.ofSource source).segmented_readings.readable ?_ part h e he
  intro t ht hkind
  obtain ⟨chunk, _, hchunk⟩ := List.mem_flatMap.mp ht
  exact readable_of_mem_lex hchunk hkind

end PairLisp

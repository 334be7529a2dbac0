import SlideDeck.Archive.Zstandard.Backward

/-!
# State codes

A state code stands for symbols by a walk through states. Each state has a symbol, and says how many bits
are read to get to the next one. A symbol has as many states as its share, so that frequent symbols take
few bits, even fractions of one.
-/

namespace SlideDeck.Archive.Zstandard

/-- A state: its symbol, and the next states, which are those from `least` on by the number in so many
bits. -/
structure CodeState where
  symbol : Nat
  bits : Nat
  least : Nat
deriving Inhabited

/-- A code with `2 ^ log` states. -/
structure StateCode where
  log : Nat
  states : Array CodeState

namespace StateCode

/-- The code that always stands for one symbol. -/
def constant (symbol : Nat) : StateCode := ⟨0, #[⟨symbol, 0, 0⟩]⟩

/-! ## Construction -/

/-- The symbols of the states. A symbol with the share -1, which is rare, has a state at the end; those of
the others are spread by wide steps. -/
def spread (log : Nat) (shares : List Int) : Array Nat :=
  let size := 2 ^ log
  let rare := (shares.zipIdx.filter (·.1 == -1)).map (·.2)
  let others := shares.zipIdx.flatMap fun (share, symbol) => List.replicate share.toNat symbol
  let step := size / 2 + size / 8 + 3
  let places := ((List.range size).map fun i => i * step % size).filter (· < size - rare.length)
  let cells := (places.zip others).foldl (fun cells (place, symbol) => cells.set! place symbol)
    (Array.replicate size 0)
  rare.zipIdx.foldl (fun cells (symbol, i) => cells.set! (size - 1 - i) symbol) cells

/-- The code with these shares, which add up to the count of states. The states of a symbol divide up all
states among them: a number counts them from the share on, and the greater it is, the fewer bits are
read. -/
def ofShares (log : Nat) (shares : List Int) : StateCode :=
  let add (built : Array CodeState × Array Nat) (symbol : Nat) : Array CodeState × Array Nat :=
    let number := built.2[symbol]?.getD 1
    let bits := log - number.log2
    (built.1.push ⟨symbol, bits, number * 2 ^ bits - 2 ^ log⟩, built.2.set! symbol (number + 1))
  let numbers := (shares.map Int.natAbs).toArray
  ⟨log, ((spread log shares).foldl add (#[], numbers)).1⟩

/-! ## Descriptions -/

/-- Reads how many shares of zero follow, in steps of up to three, and where the next share is. -/
def zeros (bytes : ByteArray) : (limit : Nat) → (place : Nat) → Nat × Nat
  | 0, place => (0, place)
  | limit + 1, place =>
    let count := bitsAt bytes place 2
    if count = 3 then
      let (more, next) := zeros bytes limit (place + 2)
      (3 + more, next)
    else (count, place + 2)

/-- Reads shares until they add up to the count of states, of which so many are `left`, and the place
behind them. A share takes no more bits than what is left requires, and one less for small numbers. -/
def sharesFrom? (bytes : ByteArray) : (limit : Nat) → (left place : Nat) → (reversed : List Int) →
    Option (List Int × Nat)
  | 0, _, _, _ => none
  | limit + 1, left, place, reversed =>
    if left = 0 then some (reversed.reverse, place)
    else
      let bits := (left + 1).log2 + 1
      let wide := bitsAt bytes place bits
      let half := 2 ^ (bits - 1)
      let spare := 2 ^ bits - 2 - left
      let low := wide % half
      let value := if low < spare then low else if half ≤ wide then wide - spare else wide
      let next := if low < spare then place + bits - 1 else place + bits
      let share : Int := value - 1
      if left < share.natAbs then none
      else if share = 0 then
        let (count, next) := zeros bytes (8 * bytes.size) next
        sharesFrom? bytes limit left next (List.replicate count 0 ++ (0 :: reversed))
      else sharesFrom? bytes limit (left - share.natAbs) next (share :: reversed)

/-- Reads the description of a code for the symbols up to `last` with at most `2 ^ maxLog` states, and how
many bytes it takes. -/
def ofDescription? (bytes : ByteArray) (last maxLog : Nat) : Option (StateCode × Nat) := do
  let log := bitsAt bytes 0 4 + 5
  if maxLog < log then none
  let (shares, place) ← sharesFrom? bytes (last + 2) (2 ^ log) 4 []
  let size := (place + 7) / 8
  if last + 1 < shares.length || bytes.size < size then none
  pure (ofShares log shares, size)

/-! ## Walks -/

/-- The state with a number. -/
def state (code : StateCode) (number : Nat) : CodeState := code.states[number]?.getD default

/-- Reads the number of the first state. -/
def first? (code : StateCode) (bits : Backward) : Option (Nat × Backward) := bits.read? code.log

/-- Reads the number of the state after one. -/
def next? (code : StateCode) (number : Nat) (bits : Backward) : Option (Nat × Backward) := do
  let state := code.state number
  let (more, bits) ← bits.read? state.bits
  pure (state.least + more, bits)

end StateCode

end SlideDeck.Archive.Zstandard

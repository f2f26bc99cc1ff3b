/-!
# Fresh names

Names that collide with none of those in use. A free name is kept; a taken one gets an underscore
and random letters behind it. The letters come from a generator with a fixed seed, so equal inputs
get equal names.

## Main definitions

- `Letters` — the generator, with `Letters.next` and `Letters.letter`
- `allocate` — a name that is not taken
- `allocateInto` — the same, and the list of taken names with it
-/

namespace RestClient

/-- A source of random letters: its state is a word of 64 bits. -/
structure Letters where
  state : UInt64
  deriving DecidableEq, Repr

namespace Letters

/-- The generator from which a client's names are drawn. -/
def initial : Letters :=
  ⟨0x6b697465⟩

/-- A random word: the state moves by a fixed odd step, and the two halves of a product of it are
folded together. -/
def next (g : Letters) : UInt64 × Letters :=
  let state := g.state + 0x2d358dccaa6c78a5
  let product := state.toNat * (state ^^^ 0x8bb84b93962eacc9).toNat
  (UInt64.ofNat (product % Nat.pow 2 64) ^^^ UInt64.ofNat (product / Nat.pow 2 64), ⟨state⟩)

/-- Words are drawn again while the low half of their product with 26 is in the part that would
make some letters likelier. The fuel covers every state. -/
def redraw (least : Nat) : Nat → Letters → Nat → Nat × Letters
  | 0, g, product => (product / Nat.pow 2 64, g)
  | fuel + 1, g, product =>
    if product % Nat.pow 2 64 < least then
      let (word, g) := g.next
      redraw least fuel g (word.toNat * 26)
    else (product / Nat.pow 2 64, g)

/-- A random number, whose remainder by 26 picks a letter. -/
def draw (g : Letters) : Nat × Letters :=
  let (word, g) := g.next
  let product := word.toNat * 26
  if product % Nat.pow 2 64 < 26 then redraw ((Nat.pow 2 64 - 26) % 26) (Nat.pow 2 64) g product
  else (product / Nat.pow 2 64, g)

/-- A random lower-case letter. -/
def letter (g : Letters) : Char × Letters :=
  (Char.ofNat (0x61 + g.draw.1 % 26), g.draw.2)

/-- `n` random letters. -/
def take : Nat → Letters → List Char × Letters
  | 0, g => ([], g)
  | n + 1, g =>
    let (c, g) := g.letter
    let (cs, g) := take n g
    (c :: cs, g)

end Letters

/-- A taken name with letters behind it. -/
def decorated (preferred : String) (letters : List Char) : String :=
  preferred ++ "_" ++ String.ofList letters

/-- All words of `n` lower-case letters, in order. -/
def words : Nat → List (List Char)
  | 0 => [[]]
  | n + 1 =>
    ((List.range 26).map fun i => Char.ofNat (0x61 + i)).flatMap fun c => (words n).map (c :: ·)

/-- Candidates are drawn until one is free. A run as long as the fuel has seen every state of the
generator, so that the branch without fuel stands for a search that goes on for ever: no search that
ends gets there, as `EndsAt.lt` shows. The first free candidate is the name in its place. -/
def drawFree (preferred : String) (taken : List String) (size : Nat) :
    Nat → Letters → String × Letters
  | 0, g =>
    let free := (words size).find? fun w => !taken.contains (decorated preferred w)
    (decorated preferred (free.getD []), g)
  | fuel + 1, g =>
    let (letters, g) := g.take size
    let candidate := decorated preferred letters
    if taken.contains candidate then drawFree preferred taken size fuel g else (candidate, g)

/-- How many letters go behind a taken name: two, and one more for every 26 taken names that start
with it. -/
def decorationSize (preferred : String) (taken : List String) : Nat :=
  (taken.filter fun name => preferred.toList.isPrefixOf name.toList).length / 26 + 2

/-- A name that is not taken: the preferred one if it is free. -/
def allocate (preferred : String) (taken : List String) (g : Letters) : String × Letters :=
  if taken.contains preferred then
    drawFree preferred taken (decorationSize preferred taken) (Nat.pow 2 64) g
  else (preferred, g)

/-- The state of several allocations in a row: the generator and the names in use. -/
structure NameSupply where
  letters : Letters
  taken : List String
  deriving DecidableEq, Repr

/-- A name that is not in use, and is from now on. -/
def NameSupply.allocate (preferred : String) (s : NameSupply) : String × NameSupply :=
  let (name, letters) := RestClient.allocate preferred s.taken s.letters
  (name, ⟨letters, s.taken ++ [name]⟩)

end RestClient

import LiquidityReturns.Source.Basic

namespace LiquidityReturns

/-!
# A source of fixed records

A fixture holds records in the order in which they were registered.  An
address may have several member records; of several states of a pool, or
several samples for one second, the last one counts.  Actions are served page
by page whatever addresses are asked for.
-/

/-- The records that a source of fixed answers holds. -/
structure Fixture where
  members : List (Address × MemberPool)
  pools : List (Asset × PoolState)
  actions : List Action
  prices : List (Asset × PriceSample)
  deriving DecidableEq

namespace Fixture

/-- No records. -/
def empty : Fixture where
  members := []
  pools := []
  actions := []
  prices := []

/-- Register a member's record under an address. -/
def addMember
    (fixture : Fixture)
    (address : Address)
    (member : MemberPool) :
    Fixture :=
  { fixture with members := fixture.members ++ [(address, member)] }

def addPool
    (fixture : Fixture)
    (pool : Asset)
    (state : PoolState) :
    Fixture :=
  { fixture with pools := fixture.pools ++ [(pool, state)] }

def addAction (fixture : Fixture) (action : Action) : Fixture :=
  { fixture with actions := fixture.actions ++ [action] }

/-- Set the sample of a pool in the sample's second. -/
def addPrice
    (fixture : Fixture)
    (pool : Asset)
    (sample : PriceSample) :
    Fixture :=
  { fixture with prices := fixture.prices ++ [(pool, sample)] }

/-- The records of a member, in order. -/
def membersAt (fixture : Fixture) (address : Address) : List MemberPool :=
  (fixture.members.filter fun entry => entry.1 = address).map Prod.snd

/-- The state of a pool. -/
def poolAt? (fixture : Fixture) (pool : Asset) : Option PoolState :=
  fixture.pools.reverse.lookup pool

/-- The sample of a pool in one second. -/
def priceAt?
    (fixture : Fixture)
    (pool : Asset)
    (second : Second) :
    Option PriceSample :=
  (fixture.prices.reverse.find? fun entry =>
    entry.1 = pool ∧ entry.2.second = second).map Prod.snd

def page (fixture : Fixture) (limit offset : Nat) : ActionsPage where
  actions := (fixture.actions.drop offset).take limit
  count := fixture.actions.length

/-- An answer, or the description of what is missing. -/
def orNotFound (what : String) : Option α → Except SourceError α
  | none =>
      .error (.notFound what)
  | some answer =>
      .ok answer

/-- Answer from the records of a fixture. -/
def source (fixture : Fixture) : DataSource where
  member address :=
    match fixture.membersAt address with
    | [] =>
        .error (.notFound s!"member {address}")
    | members =>
        .ok members
  pool pool :=
    orNotFound s!"pool {pool}" (fixture.poolAt? pool)
  actions _ limit offset :=
    .ok (fixture.page limit offset)
  price pool second :=
    orNotFound s!"depth history {pool} at {second}"
      (fixture.priceAt? pool second)

end Fixture

end LiquidityReturns

import PoliteCrawl.Config.Basic
import PoliteCrawl.Outcome

set_option autoImplicit false

namespace PoliteCrawl

structure Politeness where
  factor : Number.Binary64
  least : Time.Span
  greatest : Time.Span
deriving DecidableEq, Repr

namespace Politeness

def ofConfig (config : PolitenessConfig) : Politeness :=
  { factor := config.delayFactor
    least := Time.millis config.minDelayMs
    greatest := Time.millis config.maxDelayMs }

def none : Politeness :=
  { factor := Number.Binary64.ofNat 0, least := 0, greatest := 0 }

-- The multiple in whole milliseconds; a multiple out of all proportion counts as the greatest
-- pause.
def scaled (politeness : Politeness) (fetch : Time.Span) : Time.Span :=
  let product :=
    Number.Binary64.mul (Number.Binary64.ofNat (Time.wholeMillis fetch)) politeness.factor
  match product.round? with
  | some count => if count < Nat.pow 2 64 then Time.millis count else politeness.greatest
  | Option.none => politeness.greatest

def delayFor (politeness : Politeness) (fetch : Time.Span) : Time.Span :=
  min (max (politeness.scaled fetch) politeness.least) politeness.greatest

def delay (politeness : Politeness) (outcome : Outcome) : Time.Span :=
  politeness.delayFor outcome.duration

end Politeness

end PoliteCrawl

set_option autoImplicit false

namespace PoliteCrawl.Time

abbrev Span := Nat

abbrev Instant := Nat

def nanosPerMilli : Nat := 1000000

def nanosPerSecond : Nat := 1000000000

def millis (count : Nat) : Span :=
  count * nanosPerMilli

def wholeMillis (span : Span) : Nat :=
  span / nanosPerMilli

end PoliteCrawl.Time

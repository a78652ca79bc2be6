import VectorCapture.Run.Script
/-!
# The built-in demo target

The program captures vectors for a small target with eight coverage locations. It reads a `tag`
byte, then:

* below `0x40`, a two-byte `len`, aborting when it is above `0xff00` and returning 1 otherwise;
* at `0x42`, a four-byte `value`, returning 0 when it is a multiple of 16 and exiting with 2
  otherwise;
* otherwise a `flag`, and returns 3 either way, through one of two locations.
-/

namespace VectorCapture.Cli

/-- The number of coverage locations of the demo target. -/
def demoLocations : Nat := 8

/-- The demo target. -/
def demo : Script Empty :=
  .initCoverage demoLocations <| .hit 0 <|
  .request 1 "tag" fun tagBytes =>
    let tag := leNat tagBytes
    if tag < 0x40 then
      .hit 1 <| .request 2 "len" fun lenBytes =>
        if leNat lenBytes > 0xff00 then .hit 2 .abort else .finish 1
    else if tag == 0x42 then
      .hit 3 <| .request 4 "value" fun valueBytes =>
        if leNat valueBytes % 16 == 0 then .hit 4 (.finish 0) else .exit 2
    else
      .hit 5 <| .request 1 "flag" fun flagBytes =>
        .hit (if flagBytes.any (· != 0) then 6 else 7) (.finish 3)

end VectorCapture.Cli

import Phonelets.Sim.StringWriter
import Phonelets.Stk.ValueRoundTrip

/-! # Records with a telephone number

A record of a SIM with an identifier, which takes what the last 14 octets leave, and a number:
its length, its type, ten octets of digits and two that are not used. `sim_adn_build` writes one
and `sim_adn_parse` reads it.
-/

namespace Phonelets.Sim

open List Option Outcome
open Phonelets.Sms (GConvert Basic ucs2be readOctets length_ucs2be ucs2be_append ucs2Codec
  ucs2Codec_exact)
open Phonelets.Stk (simExtractBcdNumber simEncodeBcdNumber IsBcdDigit)
open Gsm (utf8 blank gsmOctets)
open Outcome (orFault)

/-! ## The code -/

variable {ph : OfonoPhoneNumber}

variable {g : GConvert} {s : List Char} {n : ℕ}

end Phonelets.Sim

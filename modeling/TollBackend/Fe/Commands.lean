import TollBackend.Basic

/-!
# Commands of the front end

The ids of requests and responses, as in `constants::fe`.
-/

namespace TollBackend.Fe

def CONNECT : Int := 0x6C
def CONNECT_RESP : Int := 0x6D
def HANDSHAKE : Int := 0x1C
def SHAKE_RESP : Int := 0x6F
def CHECKIN : Int := 0x66
def CHECKIN_RESP : Int := 0x67
def COMMIT : Int := 0x68
def COMMIT_RESP : Int := 0x69
def ROLLBACK : Int := 0x6A
def ROLLBACK_RESP : Int := 0x6B
def TERMINATE : Int := 0x70
def TERMINATE_RESP : Int := 0x71
def QUERY_VEHICLE_BOO : Int := 0x64
def QUERY_VEHICLE_BOO_RESP : Int := 0x65
def LOOKUP_VEHICLE : Int := 0x96
def LOOKUP_VEHICLE_RESP : Int := 0x97
def CHECKOUT_RESERVE_BOO : Int := 0x98
def CHECKOUT_RESERVE_BOO_RESP : Int := 0x99
def CHECKOUT_COMMIT_BOO : Int := 0x9A
def CHECKOUT_COMMIT_BOO_RESP : Int := 0x9B
def CHECKOUT_ROLLBACK_BOO : Int := 0x9C
def CHECKOUT_ROLLBACK_BOO_RESP : Int := 0x9D

end TollBackend.Fe

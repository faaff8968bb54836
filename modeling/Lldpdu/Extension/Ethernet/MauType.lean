import Lldpdu.Code

/-!
# Types of medium attachment unit

The type of an attachment unit tells the medium, the rate and the duplex mode of a link.
-/

namespace Lldpdu

/-- The assigned types of medium attachment unit. -/
def mauTypes : Registry UInt16 where
  assignments :=
    [ (0, "Unknown"), (1, "AUI"), (2, "10Base5"), (3, "FOIRL"), (4, "10Base2"), (5, "10BaseT"),
      (6, "10BaseFP"), (7, "10BaseFB"), (8, "10BaseFL"), (9, "10Broad36"), (10, "10BaseT HD"),
      (11, "10BaseT FD"), (12, "10BaseFL HD"), (13, "10BaseFL FD"), (14, "100BaseT4"),
      (15, "100BaseTX HD"), (16, "100BaseTX FD"), (17, "100BaseFX HD"), (18, "100BaseFX FD"),
      (19, "100BaseT2 HD"), (20, "100BaseT2 FD"), (21, "1000BaseX HD"), (22, "1000BaseX FD"),
      (23, "1000BaseLX HD"), (24, "1000BaseLX FD"), (25, "1000BaseSX HD"), (26, "1000BaseSX FD"),
      (27, "1000BaseCX HD"), (28, "1000BaseCX FD"), (29, "1000BaseT HD"), (30, "1000BaseT FD"),
      (31, "10GBaseX"), (32, "10GBaseLX4"), (33, "10GBaseR"), (34, "10GBaseER"), (35, "10GBaseLR"),
      (36, "10GBaseSR"), (37, "10GBaseW"), (38, "10GBaseEW"), (39, "10GBaseLW"), (40, "10GBaseSW"),
      (41, "10GBaseCX4"), (42, "2BaseTL"), (43, "10PassTS"), (44, "100BaseBX10D"),
      (45, "100BaseBX10U"), (46, "100BaseLX10"), (47, "1000BaseBX10D"), (48, "1000BaseBX10U"),
      (49, "1000BaseLX10"), (50, "1000BasePX10D"), (51, "1000BasePX10U"), (52, "1000BasePX20D"),
      (53, "1000BasePX20U"), (54, "10GBaseT"), (55, "10GBaseLRM"), (56, "1000BaseKX"),
      (57, "10GBaseKX4"), (58, "10GBaseKR"), (59, "10/1GBasePRX-D1"), (60, "10/1GBasePRX-D2"),
      (61, "10/1GBasePRX-D3"), (62, "10/1GBasePRX-U1"), (63, "10/1GBasePRX-U2"),
      (64, "10/1GBasePRX-U3"), (65, "10GBasePR-D1"), (66, "10GBasePR-D2"), (67, "10GBasePR-D3"),
      (68, "10GBasePR-U1"), (69, "10GBasePR-U3") ]

/-- The type of a medium attachment unit. -/
abbrev MauType := Code mauTypes

end Lldpdu

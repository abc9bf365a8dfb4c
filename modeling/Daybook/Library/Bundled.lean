/-
Daybook.Library.Bundled — the library that comes with the program.
-/
import Daybook.Library.Basic

namespace Daybook.Library

def bundledQuotes : List Quote := [
  ⟨"You have power over your mind - not outside events. Realize this, and you will find strength.",
    "Marcus Aurelius"⟩,
  ⟨"The happiness of your life depends upon the quality of your thoughts.",
    "Marcus Aurelius"⟩,
  ⟨"Waste no more time arguing about what a good man should be. Be one.",
    "Marcus Aurelius"⟩,
  ⟨"The impediment to action advances action. What stands in the way becomes the way.",
    "Marcus Aurelius"⟩,
  ⟨"Very little is needed to make a happy life; it is all within yourself, in your way of thinking.",
    "Marcus Aurelius"⟩,
  ⟨"When you arise in the morning, think of what a precious privilege it is to be alive - to breathe, to think, to enjoy, to love.",
    "Marcus Aurelius"⟩,
  ⟨"It is not death that a man should fear, but he should fear never beginning to live.",
    "Marcus Aurelius"⟩,
  ⟨"We suffer more often in imagination than in reality.",
    "Seneca"⟩,
  ⟨"Luck is what happens when preparation meets opportunity.",
    "Seneca"⟩,
  ⟨"While we are postponing, life speeds by.",
    "Seneca"⟩,
  ⟨"It is not that we have a short time to live, but that we waste a lot of it.",
    "Seneca"⟩,
  ⟨"Difficulties strengthen the mind, as labor does the body.",
    "Seneca"⟩,
  ⟨"He who is brave is free.",
    "Seneca"⟩,
  ⟨"No man is free who is not master of himself.",
    "Epictetus"⟩,
  ⟨"It's not what happens to you, but how you react to it that matters.",
    "Epictetus"⟩,
  ⟨"First say to yourself what you would be; and then do what you have to do.",
    "Epictetus"⟩,
  ⟨"Wealth consists not in having great possessions, but in having few wants.",
    "Epictetus"⟩,
  ⟨"Don't explain your philosophy. Embody it.",
    "Epictetus"⟩,
  ⟨"Men are disturbed not by things, but by the views which they take of them.",
    "Epictetus"⟩,
  ⟨"We have two ears and one mouth so that we can listen twice as much as we speak.",
    "Zeno of Citium"⟩,
  ⟨"Well-being is realized by small steps, but is truly no small thing.",
    "Zeno of Citium"⟩,
  ⟨"If you accomplish something good with hard work, the labor passes quickly, but the good endures.",
    "Musonius Rufus"⟩]

def bundledPractices : List Practice := [
  ⟨"Morning premeditation: picture the difficulties the day may bring and decide now how you will meet them."⟩,
  ⟨"Dichotomy of control: list what troubled you today and sort it into what is up to you and what is not."⟩,
  ⟨"Negative visualization: spend a minute imagining life without something you love, then go and appreciate it."⟩,
  ⟨"View from above: imagine rising above your city, your country, the earth, and see how small today's worries are."⟩,
  ⟨"Voluntary discomfort: skip one comfort today - a warm shower, a snack, the elevator - and notice that you are fine."⟩,
  ⟨"Memento mori: remind yourself that life is short and ask whether what you are doing deserves your time."⟩,
  ⟨"Amor fati: pick one thing that went wrong recently and find a way to welcome it as material to work with."⟩,
  ⟨"Pause before reacting: when something irritates you today, wait ten breaths before you answer."⟩,
  ⟨"Evening review: what did I do well today, where did I fall short, and what will I do differently tomorrow?"⟩,
  ⟨"Sympathy for others: when someone wrongs you, remember they act from what seems right to them."⟩,
  ⟨"Reserve clause: add 'fate permitting' to each plan you make today and hold the outcome lightly."⟩,
  ⟨"Read one page of Stoic writing slowly and write down the sentence that struck you most."⟩]

def bundled : Library := ⟨bundledQuotes, bundledPractices⟩

end Daybook.Library
